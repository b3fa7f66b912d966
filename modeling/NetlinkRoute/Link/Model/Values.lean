import NetlinkRoute.Common.Message
import NetlinkRoute.Common.Enum
/-!
# Link — plain attribute values

The values that a link attribute holds where it holds no further list:
states, events, counters, identifiers; and the small lists that end one
level down.
-/

namespace NetlinkRoute

open PacketUtils Emitter

abbrev IF_OPER_UNKNOWN : UInt8 := 0
abbrev IF_OPER_NOTPRESENT : UInt8 := 1
abbrev IF_OPER_DOWN : UInt8 := 2
abbrev IF_OPER_LOWERLAYERDOWN : UInt8 := 3
abbrev IF_OPER_TESTING : UInt8 := 4
abbrev IF_OPER_DORMANT : UInt8 := 5
abbrev IF_OPER_UP : UInt8 := 6

/-- The operational state of a link. -/
inductive State where
  | unknown | notPresent | down | lowerLayerDown | testing | dormant | up | other (d : UInt8)
deriving DecidableEq

/-- The numbers of `State`. -/
def State.codec : EnumCodec UInt8 State where
  arms := [(IF_OPER_UNKNOWN, .unknown), (IF_OPER_NOTPRESENT, .notPresent), (IF_OPER_DOWN, .down),
    (IF_OPER_LOWERLAYERDOWN, .lowerLayerDown), (IF_OPER_TESTING, .testing),
    (IF_OPER_DORMANT, .dormant), (IF_OPER_UP, .up)]
  other := .other
  toNum
    | .unknown => IF_OPER_UNKNOWN | .notPresent => IF_OPER_NOTPRESENT | .down => IF_OPER_DOWN
    | .lowerLayerDown => IF_OPER_LOWERLAYERDOWN | .testing => IF_OPER_TESTING
    | .dormant => IF_OPER_DORMANT | .up => IF_OPER_UP | .other d => d
  toNum_arm := by decide
  toNum_other _ := rfl

abbrev IFLA_EVENT_NONE : UInt32 := 0
abbrev IFLA_EVENT_REBOOT : UInt32 := 1
abbrev IFLA_EVENT_FEATURES : UInt32 := 2
abbrev IFLA_EVENT_BONDING_FAILOVER : UInt32 := 3
abbrev IFLA_EVENT_NOTIFY_PEERS : UInt32 := 4
abbrev IFLA_EVENT_IGMP_RESEND : UInt32 := 5
abbrev IFLA_EVENT_BONDING_OPTIONS : UInt32 := 6

/-- `LinkEvent`, why the kernel reports a link. -/
inductive LinkEvent where
  | none | reboot | features | bondingFailover | notifyPeers | igmpResend | bondingOptions
  | other (d : UInt32)
deriving DecidableEq

/-- The numbers of `LinkEvent`. -/
def LinkEvent.codec : EnumCodec UInt32 LinkEvent where
  arms := [(IFLA_EVENT_NONE, .none), (IFLA_EVENT_REBOOT, .reboot),
    (IFLA_EVENT_FEATURES, .features), (IFLA_EVENT_BONDING_FAILOVER, .bondingFailover),
    (IFLA_EVENT_NOTIFY_PEERS, .notifyPeers), (IFLA_EVENT_IGMP_RESEND, .igmpResend),
    (IFLA_EVENT_BONDING_OPTIONS, .bondingOptions)]
  other := .other
  toNum
    | .none => IFLA_EVENT_NONE | .reboot => IFLA_EVENT_REBOOT | .features => IFLA_EVENT_FEATURES
    | .bondingFailover => IFLA_EVENT_BONDING_FAILOVER | .notifyPeers => IFLA_EVENT_NOTIFY_PEERS
    | .igmpResend => IFLA_EVENT_IGMP_RESEND | .bondingOptions => IFLA_EVENT_BONDING_OPTIONS
    | .other d => d
  toNum_arm := by decide
  toNum_other _ := rfl

abbrev RTEXT_FILTER_VF : UInt32 := 1
abbrev RTEXT_FILTER_BRVLAN : UInt32 := 2
abbrev RTEXT_FILTER_BRVLAN_COMPRESSED : UInt32 := 4
abbrev RTEXT_FILTER_SKIP_STATS : UInt32 := 8
abbrev RTEXT_FILTER_MRP : UInt32 := 16
abbrev RTEXT_FILTER_CFM_CONFIG : UInt32 := 32
abbrev RTEXT_FILTER_CFM_STATUS : UInt32 := 64
abbrev RTEXT_FILTER_MST : UInt32 := 128

/-- One bit of the filter mask, or all bits that have no name. -/
inductive LinkExtentMask where
  | vf | brvlan | brvlanCompressed | skipStats | mrp | cfmConfig | cfmStatus | mst
  | other (d : UInt32)
deriving DecidableEq

/-- The numbers of `LinkExtentMask`. -/
def LinkExtentMask.codec : EnumCodec UInt32 LinkExtentMask where
  arms := [(RTEXT_FILTER_VF, .vf), (RTEXT_FILTER_BRVLAN, .brvlan),
    (RTEXT_FILTER_BRVLAN_COMPRESSED, .brvlanCompressed), (RTEXT_FILTER_SKIP_STATS, .skipStats),
    (RTEXT_FILTER_MRP, .mrp), (RTEXT_FILTER_CFM_CONFIG, .cfmConfig),
    (RTEXT_FILTER_CFM_STATUS, .cfmStatus), (RTEXT_FILTER_MST, .mst)]
  other := .other
  toNum
    | .vf => RTEXT_FILTER_VF | .brvlan => RTEXT_FILTER_BRVLAN
    | .brvlanCompressed => RTEXT_FILTER_BRVLAN_COMPRESSED | .skipStats => RTEXT_FILTER_SKIP_STATS
    | .mrp => RTEXT_FILTER_MRP | .cfmConfig => RTEXT_FILTER_CFM_CONFIG
    | .cfmStatus => RTEXT_FILTER_CFM_STATUS | .mst => RTEXT_FILTER_MST | .other d => d
  toNum_arm := by decide
  toNum_other _ := rfl

namespace LinkExtentMask

/-- `ALL_LINK_FLAGS`. -/
def all : List LinkExtentMask :=
  [.vf, .brvlan, .brvlanCompressed, .skipStats, .mrp, .cfmConfig, .cfmStatus, .mst]

/-- The loop of `From<u32> for VecLinkExtentMask`: the flags that are set,
and their sum. -/
def setIn (d : UInt32) : List LinkExtentMask → UInt32 → Outcome (List LinkExtentMask × UInt32)
  | [], got => .ok ([], got)
  | flag :: flags, got =>
    if d &&& codec.toNum flag > 0 then do
      let got ← addU32 got (codec.toNum flag)
      let (ret, got) ← setIn d flags got
      .ok (flag :: ret, got)
    else setIn d flags got

/-- `From<u32> for VecLinkExtentMask`. -/
def ofMask (d : UInt32) : Outcome (List LinkExtentMask) := do
  let (ret, got) ← setIn d all 0
  if got ≠ d then
    let rest ← subU32 d got
    .ok (ret ++ [.other rest])
  else .ok ret

/-- `From<&VecLinkExtentMask> for u32`. -/
def toMask : List LinkExtentMask → UInt32 → Outcome UInt32
  | [], d => .ok d
  | flag :: flags, d => do toMask flags (← addU32 d (codec.toNum flag))

end LinkExtentMask

/-- `LinkPhysId`: a place for 32 bytes, and how many are used. -/
structure LinkPhysId where
  id : Octets 32
  len : ℕ
deriving DecidableEq

namespace LinkPhysId

/-- The length is taken modulo the size of the place. -/
def parse (buf : Bytes) : Outcome LinkPhysId := do
  let len := buf.length % 32
  let id ← slice buf 0 len
  .ok { id := .ofBytes 32 id, len }

def bufferLen (v : LinkPhysId) : ℕ := v.len

def emit (v : LinkPhysId) : Emitter := after (slice v.id.val 0 v.len) (put 0)

end LinkPhysId

/-- `LinkWirelessEvent`: bytes that are not looked into. -/
structure LinkWirelessEvent where
  bytes : Bytes
deriving DecidableEq

section Structs

variable [Host]

/-- `Map`, the memory map of a device. -/
structure Map where
  memoryStart : UInt64
  memoryEnd : UInt64
  baseAddress : UInt64
  irq : UInt16
  dma : UInt8
  port : UInt8
deriving DecidableEq

/-- `MapBuffer`. The last four bytes are no field. -/
def Map.codec : HeaderCodec Map where
  len := 32
  parse buf := do
    return {
      memoryStart := ← getU64 buf 0, memoryEnd := ← getU64 buf 8, baseAddress := ← getU64 buf 16,
      irq := ← getU16 buf 24, dma := ← getU8 buf 26, port := ← getU8 buf 27 }
  layout v := [
    (0, ne.u64 v.memoryStart), (8, ne.u64 v.memoryEnd), (16, ne.u64 v.baseAddress),
    (24, ne.u16 v.irq), (26, [v.dma]), (27, [v.port])]
  WellFormed _ := True
  ascending v := by simp [Ascending]
  parse_layout v rest _ := by simp [gapped, getU16_append, getU64_append, getU8_append]
  parse_of_le b hb := by
    simp (disch := exact fits_of_le hb rfl) only [getU16_of_le, getU64_of_le, getU8_of_le,
      Outcome.ok_bind,
      Outcome.pure_eq]
    exact ⟨_, rfl, trivial⟩

/-- `Stats`, the counters of a link. -/
structure Stats where
  rxPackets : UInt32
  txPackets : UInt32
  rxBytes : UInt32
  txBytes : UInt32
  rxErrors : UInt32
  txErrors : UInt32
  rxDropped : UInt32
  txDropped : UInt32
  multicast : UInt32
  collisions : UInt32
  rxLengthErrors : UInt32
  rxOverErrors : UInt32
  rxCrcErrors : UInt32
  rxFrameErrors : UInt32
  rxFifoErrors : UInt32
  rxMissedErrors : UInt32
  txAbortedErrors : UInt32
  txCarrierErrors : UInt32
  txFifoErrors : UInt32
  txHeartbeatErrors : UInt32
  txWindowErrors : UInt32
  rxCompressed : UInt32
  txCompressed : UInt32
  rxNohandler : UInt32
deriving DecidableEq

/-- `StatsBuffer`: getters and setters of `Stats`. -/
def Stats.codec : StructCodec Stats where
  len := 96
  parse buf := do
    return {
      rxPackets := ← getU32 buf 0, txPackets := ← getU32 buf 4, rxBytes := ← getU32 buf 8,
      txBytes := ← getU32 buf 12, rxErrors := ← getU32 buf 16, txErrors := ← getU32 buf 20,
      rxDropped := ← getU32 buf 24, txDropped := ← getU32 buf 28, multicast := ← getU32 buf 32,
      collisions := ← getU32 buf 36, rxLengthErrors := ← getU32 buf 40,
      rxOverErrors := ← getU32 buf 44, rxCrcErrors := ← getU32 buf 48,
      rxFrameErrors := ← getU32 buf 52, rxFifoErrors := ← getU32 buf 56,
      rxMissedErrors := ← getU32 buf 60, txAbortedErrors := ← getU32 buf 64,
      txCarrierErrors := ← getU32 buf 68, txFifoErrors := ← getU32 buf 72,
      txHeartbeatErrors := ← getU32 buf 76, txWindowErrors := ← getU32 buf 80,
      rxCompressed := ← getU32 buf 84, txCompressed := ← getU32 buf 88,
      rxNohandler := ← getU32 buf 92 }
  layout v := [
    (0, ne.u32 v.rxPackets), (4, ne.u32 v.txPackets), (8, ne.u32 v.rxBytes),
    (12, ne.u32 v.txBytes), (16, ne.u32 v.rxErrors), (20, ne.u32 v.txErrors),
    (24, ne.u32 v.rxDropped), (28, ne.u32 v.txDropped), (32, ne.u32 v.multicast),
    (36, ne.u32 v.collisions), (40, ne.u32 v.rxLengthErrors), (44, ne.u32 v.rxOverErrors),
    (48, ne.u32 v.rxCrcErrors), (52, ne.u32 v.rxFrameErrors), (56, ne.u32 v.rxFifoErrors),
    (60, ne.u32 v.rxMissedErrors), (64, ne.u32 v.txAbortedErrors), (68, ne.u32 v.txCarrierErrors),
    (72, ne.u32 v.txFifoErrors), (76, ne.u32 v.txHeartbeatErrors), (80, ne.u32 v.txWindowErrors),
    (84, ne.u32 v.rxCompressed), (88, ne.u32 v.txCompressed), (92, ne.u32 v.rxNohandler)]
  tiles v := by simp [Tiles]
  length_layout v := by simp
  parse_layout v rest := by simp [getU32_append]
  parse_of_le b hb := by
    simp (disch := exact fits_of_le hb rfl) only [getU32_of_le, Outcome.ok_bind, Outcome.pure_eq]
    exact ⟨_, rfl⟩

/-- `Stats64`, the wide counters of a link. -/
structure Stats64 where
  rxPackets : UInt64
  txPackets : UInt64
  rxBytes : UInt64
  txBytes : UInt64
  rxErrors : UInt64
  txErrors : UInt64
  rxDropped : UInt64
  txDropped : UInt64
  multicast : UInt64
  collisions : UInt64
  rxLengthErrors : UInt64
  rxOverErrors : UInt64
  rxCrcErrors : UInt64
  rxFrameErrors : UInt64
  rxFifoErrors : UInt64
  rxMissedErrors : UInt64
  txAbortedErrors : UInt64
  txCarrierErrors : UInt64
  txFifoErrors : UInt64
  txHeartbeatErrors : UInt64
  txWindowErrors : UInt64
  rxCompressed : UInt64
  txCompressed : UInt64
  rxNohandler : UInt64
  rxOtherhostDropped : UInt64
deriving DecidableEq

/-- `Stats64Buffer`: getters and setters of `Stats64`. -/
def Stats64.codec : StructCodec Stats64 where
  len := 200
  parse buf := do
    return {
      rxPackets := ← getU64 buf 0, txPackets := ← getU64 buf 8, rxBytes := ← getU64 buf 16,
      txBytes := ← getU64 buf 24, rxErrors := ← getU64 buf 32, txErrors := ← getU64 buf 40,
      rxDropped := ← getU64 buf 48, txDropped := ← getU64 buf 56, multicast := ← getU64 buf 64,
      collisions := ← getU64 buf 72, rxLengthErrors := ← getU64 buf 80,
      rxOverErrors := ← getU64 buf 88, rxCrcErrors := ← getU64 buf 96,
      rxFrameErrors := ← getU64 buf 104, rxFifoErrors := ← getU64 buf 112,
      rxMissedErrors := ← getU64 buf 120, txAbortedErrors := ← getU64 buf 128,
      txCarrierErrors := ← getU64 buf 136, txFifoErrors := ← getU64 buf 144,
      txHeartbeatErrors := ← getU64 buf 152, txWindowErrors := ← getU64 buf 160,
      rxCompressed := ← getU64 buf 168, txCompressed := ← getU64 buf 176,
      rxNohandler := ← getU64 buf 184, rxOtherhostDropped := ← getU64 buf 192 }
  layout v := [
    (0, ne.u64 v.rxPackets), (8, ne.u64 v.txPackets), (16, ne.u64 v.rxBytes),
    (24, ne.u64 v.txBytes), (32, ne.u64 v.rxErrors), (40, ne.u64 v.txErrors),
    (48, ne.u64 v.rxDropped), (56, ne.u64 v.txDropped), (64, ne.u64 v.multicast),
    (72, ne.u64 v.collisions), (80, ne.u64 v.rxLengthErrors), (88, ne.u64 v.rxOverErrors),
    (96, ne.u64 v.rxCrcErrors), (104, ne.u64 v.rxFrameErrors), (112, ne.u64 v.rxFifoErrors),
    (120, ne.u64 v.rxMissedErrors), (128, ne.u64 v.txAbortedErrors),
    (136, ne.u64 v.txCarrierErrors), (144, ne.u64 v.txFifoErrors),
    (152, ne.u64 v.txHeartbeatErrors), (160, ne.u64 v.txWindowErrors),
    (168, ne.u64 v.rxCompressed), (176, ne.u64 v.txCompressed), (184, ne.u64 v.rxNohandler),
    (192, ne.u64 v.rxOtherhostDropped)]
  tiles v := by simp [Tiles]
  length_layout v := by simp
  parse_layout v rest := by simp [getU64_append]
  parse_of_le b hb := by
    simp (disch := exact fits_of_le hb rfl) only [getU64_of_le, Outcome.ok_bind, Outcome.pure_eq]
    exact ⟨_, rfl⟩

end Structs

/-- `expand_buffer_if_small`: zeros up to the expected size. What is longer
stays. -/
def expandBufferIfSmall (got : Bytes) (expectedSize : ℕ) : Bytes :=
  if got.length < expectedSize then got ++ zeros (expectedSize - got.length) else got

section Attributes

variable [PacketUtils]

/-- `LinkEvent::parse`. -/
def LinkEvent.parse (buf : Bytes) : Outcome LinkEvent :=
  LinkEvent.codec.ofNum <$> (parseU32 buf).context "invalid IFLA_EVENT value"

abbrev IFLA_ALT_IFNAME : UInt16 := 53

/-- `Prop`, a property of a link. -/
inductive LinkProp where
  | altIfName (v : String)
  | other (v : DefaultNla)
deriving DecidableEq

namespace LinkProp

def kind : LinkProp → UInt16
  | .altIfName _ => IFLA_ALT_IFNAME
  | .other nla => nla.kind

def valueLen : LinkProp → ℕ
  | .altIfName string => (utf8 string).length + 1
  | .other nla => nla.valueLen

def emitValue : LinkProp → Emitter
  | .altIfName string => emitStringNul string
  | .other nla => nla.emitValue

/-- The attribute, as the attribute layer sees it. -/
def nla (a : LinkProp) : Nla := ⟨a.valueLen, a.kind, a.emitValue⟩

def parse (buf : NlaBuffer) : Outcome LinkProp := do
  let payload ← value buf
  let kind ← PacketUtils.kind buf
  select kind [
    (IFLA_ALT_IFNAME,
      .altIfName <$> (parseString payload).context "invalid IFLA_ALT_IFNAME value")]
    (.other <$> (defaultNla buf).context ("Unknown NLA type " ++ toString kind))

end LinkProp

abbrev IFLA_PROTO_DOWN_REASON_MASK : UInt16 := 1
abbrev IFLA_PROTO_DOWN_REASON_VALUE : UInt16 := 2

/-- `LinkProtocolDownReason`, why the protocol is held down. -/
inductive LinkProtocolDownReason where
  | value (v : UInt32)
  | mask (v : UInt32)
  | other (v : DefaultNla)
deriving DecidableEq

namespace LinkProtocolDownReason

def kind : LinkProtocolDownReason → UInt16
  | .value _ => IFLA_PROTO_DOWN_REASON_VALUE
  | .mask _ => IFLA_PROTO_DOWN_REASON_MASK
  | .other v => v.kind

def valueLen : LinkProtocolDownReason → ℕ
  | .value _ | .mask _ => 4
  | .other v => v.valueLen

def emitValue : LinkProtocolDownReason → Emitter
  | .value v | .mask v => .put 0 (ne.u32 v)
  | .other v => v.emitValue

/-- The attribute, as the attribute layer sees it. -/
def nla (a : LinkProtocolDownReason) : Nla := ⟨a.valueLen, a.kind, a.emitValue⟩

def parse (buf : NlaBuffer) : Outcome LinkProtocolDownReason := do
  let payload ← PacketUtils.value buf
  let kind ← PacketUtils.kind buf
  select kind [
    (IFLA_PROTO_DOWN_REASON_MASK,
      .mask <$>
        (parseU32 payload).context ("invalid IFLA_PROTO_DOWN_REASON_MASK " ++ debug payload)),
    (IFLA_PROTO_DOWN_REASON_VALUE,
      .value <$>
        (parseU32 payload).context ("invalid IFLA_PROTO_DOWN_REASON_MASK " ++ debug payload))]
    (.other <$> (defaultNla buf).context
      ("unknown NLA type " ++ toString kind ++ " for IFLA_PROTO_DOWN_REASON: " ++ debug payload))

end LinkProtocolDownReason

abbrev XDP_ATTACHED_NONE : UInt8 := 0
abbrev XDP_ATTACHED_DRV : UInt8 := 1
abbrev XDP_ATTACHED_SKB : UInt8 := 2
abbrev XDP_ATTACHED_HW : UInt8 := 3
abbrev XDP_ATTACHED_MULTI : UInt8 := 4

/-- `XdpAttached`, where a program is attached. -/
inductive XdpAttached where
  | none | driver | socketBuffer | hardware | multiple | other (d : UInt8)
deriving DecidableEq

/-- The numbers of `XdpAttached`. -/
def XdpAttached.codec : EnumCodec UInt8 XdpAttached where
  arms := [(XDP_ATTACHED_NONE, .none), (XDP_ATTACHED_DRV, .driver),
    (XDP_ATTACHED_SKB, .socketBuffer), (XDP_ATTACHED_HW, .hardware),
    (XDP_ATTACHED_MULTI, .multiple)]
  other := .other
  toNum
    | .none => XDP_ATTACHED_NONE | .driver => XDP_ATTACHED_DRV | .socketBuffer => XDP_ATTACHED_SKB
    | .hardware => XDP_ATTACHED_HW | .multiple => XDP_ATTACHED_MULTI | .other d => d
  toNum_arm := by decide
  toNum_other _ := rfl

abbrev IFLA_XDP_FD : UInt32 := 1
abbrev IFLA_XDP_ATTACHED : UInt32 := 2
abbrev IFLA_XDP_FLAGS : UInt32 := 3
abbrev IFLA_XDP_PROG_ID : UInt32 := 4
abbrev IFLA_XDP_DRV_PROG_ID : UInt32 := 5
abbrev IFLA_XDP_SKB_PROG_ID : UInt32 := 6
abbrev IFLA_XDP_HW_PROG_ID : UInt32 := 7
abbrev IFLA_XDP_EXPECTED_FD : UInt32 := 8

/-- `LinkXdp`. -/
inductive LinkXdp where
  | fd (v : Int32)
  | attached (v : XdpAttached)
  | flags (v : UInt32)
  | progId (v : UInt32)
  | drvProgId (v : UInt32)
  | skbProgId (v : UInt32)
  | hwProgId (v : UInt32)
  | expectedFd (v : UInt32)
  | other (v : DefaultNla)
deriving DecidableEq

namespace LinkXdp

def valueLen : LinkXdp → ℕ
  | .fd _ => 4
  | .attached _ => 1
  | .flags _ | .progId _ | .drvProgId _ | .skbProgId _ | .hwProgId _ | .expectedFd _ => 4
  | .other nla => nla.valueLen

def emitValue : LinkXdp → Emitter
  | .fd value => .put 0 (ne.i32 value)
  | .attached value => .put 0 [XdpAttached.codec.toNum value]
  | .flags value | .progId value | .drvProgId value | .skbProgId value | .hwProgId value
  | .expectedFd value => .put 0 (ne.u32 value)
  | .other nla => nla.emitValue

/-- The constants are 32-bit numbers here, cut to 16 bits. -/
def kind : LinkXdp → UInt16
  | .fd _ => IFLA_XDP_FD.toUInt16
  | .attached _ => IFLA_XDP_ATTACHED.toUInt16
  | .flags _ => IFLA_XDP_FLAGS.toUInt16
  | .progId _ => IFLA_XDP_PROG_ID.toUInt16
  | .drvProgId _ => IFLA_XDP_DRV_PROG_ID.toUInt16
  | .skbProgId _ => IFLA_XDP_SKB_PROG_ID.toUInt16
  | .hwProgId _ => IFLA_XDP_HW_PROG_ID.toUInt16
  | .expectedFd _ => IFLA_XDP_EXPECTED_FD.toUInt16
  | .other nla => nla.kind

/-- The attribute, as the attribute layer sees it. -/
def nla (a : LinkXdp) : Nla := ⟨a.valueLen, a.kind, a.emitValue⟩

def parse (buf : NlaBuffer) : Outcome LinkXdp := do
  let payload ← value buf
  let kind ← PacketUtils.kind buf
  select kind.toUInt32 [
    (IFLA_XDP_FD, .fd <$> (parseI32 payload).context "invalid IFLA_XDP_FD value"),
    (IFLA_XDP_ATTACHED,
      (.attached ∘ XdpAttached.codec.ofNum) <$>
        (parseU8 payload).context "invalid IFLA_XDP_ATTACHED value"),
    (IFLA_XDP_FLAGS, .flags <$> (parseU32 payload).context "invalid IFLA_XDP_FLAGS value"),
    (IFLA_XDP_PROG_ID, .progId <$> (parseU32 payload).context "invalid IFLA_XDP_PROG_ID value"),
    (IFLA_XDP_DRV_PROG_ID,
      .drvProgId <$> (parseU32 payload).context "invalid IFLA_XDP_PROG_ID value"),
    (IFLA_XDP_SKB_PROG_ID,
      .skbProgId <$> (parseU32 payload).context "invalid IFLA_XDP_PROG_ID value"),
    (IFLA_XDP_HW_PROG_ID,
      .hwProgId <$> (parseU32 payload).context "invalid IFLA_XDP_PROG_ID value"),
    (IFLA_XDP_EXPECTED_FD,
      .expectedFd <$> (parseU32 payload).context "invalid IFLA_XDP_PROG_ID value")]
    (.other <$> (defaultNla buf).context ("unknown NLA type " ++ toString kind))

/-- `VecLinkXdp::parse`: the list is the whole of the slice, not the
payload of the attribute it starts with. -/
def parseVec (buf : NlaBuffer) : Outcome (List LinkXdp) := parseEach parse buf.buffer

end LinkXdp

end Attributes

end NetlinkRoute
