import NetlinkRoute.Route.Model.Header
import NetlinkRoute.Route.Model.Encap
/-!
# Route — attributes, next hops and messages

A route message is a header and a list of attributes, and a multipath
attribute is a list of next hops that hold attributes in turn, so the
parser calls itself on ever shorter payloads. `RouteAttribute.parseAt`
counts the levels that are left; `RouteAttribute.parseWithParam` starts
it with as many as there are bytes, which no input can use up.
-/

namespace NetlinkRoute

open PacketUtils Emitter

/-! ## Values of single attributes -/

abbrev ICMPV6_ROUTER_PREF_LOW : UInt8 := 0x3
abbrev ICMPV6_ROUTER_PREF_MEDIUM : UInt8 := 0x0
abbrev ICMPV6_ROUTER_PREF_HIGH : UInt8 := 0x1
abbrev ICMPV6_ROUTER_PREF_INVALID : UInt8 := 0x2

/-- The preference of a router. -/
inductive RoutePreference where
  | low | medium | high | invalid | other (d : UInt8)
deriving DecidableEq

/-- The numbers of `RoutePreference`. -/
def RoutePreference.codec : EnumCodec UInt8 RoutePreference where
  arms := [(ICMPV6_ROUTER_PREF_LOW, .low), (ICMPV6_ROUTER_PREF_MEDIUM, .medium),
    (ICMPV6_ROUTER_PREF_HIGH, .high), (ICMPV6_ROUTER_PREF_INVALID, .invalid)]
  other := .other
  toNum
    | .low => ICMPV6_ROUTER_PREF_LOW | .medium => ICMPV6_ROUTER_PREF_MEDIUM
    | .high => ICMPV6_ROUTER_PREF_HIGH | .invalid => ICMPV6_ROUTER_PREF_INVALID | .other d => d
  toNum_arm := by decide
  toNum_other _ := rfl

/-- An address whose form the message's family decides. -/
inductive RouteAddress where
  | inet (v : Ipv4Addr)
  | inet6 (v : Ipv6Addr)
  | mpls (v : MplsLabel)
  | other (v : Bytes)
deriving DecidableEq

namespace RouteAddress

def parse (addressFamily : AddressFamily) (payload : Bytes) : Outcome RouteAddress :=
  match addressFamily with
  | .inet => .inet <$> parseIpv4Addr payload
  | .inet6 => .inet6 <$> parseIpv6Addr payload
  | .mpls => .mpls <$> MplsLabel.parse payload
  | _ => .ok (.other payload)

def bufferLen : RouteAddress → ℕ
  | .inet _ => IPV4_ADDR_LEN
  | .inet6 _ => IPV6_ADDR_LEN
  | .mpls _ => MplsLabel.bufferLen
  | .other v => v.length

def emit : RouteAddress → Emitter
  | .inet v => emitIpToBuffer (.v4 v)
  | .inet6 v => emitIpToBuffer (.v6 v)
  | .mpls v => v.emit
  | .other v => .copy v

end RouteAddress

abbrev RTVIA_LEN : ℕ := 2

/-- A gateway of another family. -/
inductive RouteVia where
  | inet (v : Ipv4Addr)
  | inet6 (v : Ipv6Addr)
  | packet (v : Bytes)
  | other (v : AddressFamily × Bytes)
deriving DecidableEq

namespace RouteVia

variable [PacketUtils]

/-- The family field has two bytes, of which the low one counts. -/
def parse (buf : Bytes) : Outcome RouteVia := do
  let addressFamily := AddressFamily.codec.ofNum (← getU16 buf 0).toUInt8
  let address ← sliceFrom buf RTVIA_LEN
  match addressFamily with
  | .inet => .inet <$> parseIpv4Addr address
  | .inet6 => .inet6 <$> parseIpv6Addr address
  | .packet => .ok (.packet address)
  | _ => .ok (.other (addressFamily, address))

/-- `RTA_VIA`: the checked buffer, then its parser. -/
def parseChecked (payload : Bytes) : Outcome RouteVia := do
  let via ← (checkedBuffer "RouteViaBuffer" RTVIA_LEN payload).context
    ("Invalid RTA_VIA value " ++ debug payload)
  (parse via).context ("Invalid RTA_VIA value " ++ debug payload)

def bufferLen : RouteVia → ℕ
  | .inet _ => IPV4_ADDR_LEN + 2
  | .inet6 _ => IPV6_ADDR_LEN + 2
  | .packet a => a.length + 2
  | .other v => v.2.length + 2

/-- The family and the bytes that are written. -/
def familyAndAddress : RouteVia → AddressFamily × Bytes
  | .inet ip => (.inet, ip.val)
  | .inet6 ip => (.inet6, ip.val)
  | .packet a => (.packet, a)
  | .other v => v

def emit (v : RouteVia) : Emitter :=
  (put 0 (ne.u16 (AddressFamily.codec.toNum v.familyAndAddress.1).toUInt16)).andThen
    (onTail RTVIA_LEN (.copy v.familyAndAddress.2))

end RouteVia

abbrev RULE_REALM_LEN : ℕ := 4

/-- `RouteRealm`. -/
structure RouteRealm where
  source : UInt16
  destination : UInt16
deriving DecidableEq

namespace RouteRealm

variable [Host]

/-- Four bytes are read before the length is looked at. -/
def parse (buf : Bytes) : Outcome RouteRealm := do
  let b0 ← index buf 0
  let b1 ← index buf 1
  let b2 ← index buf 2
  let b3 ← index buf 3
  let all := ne.toU32 [b0, b1, b2, b3]
  if buf.length = RULE_REALM_LEN then .ok ⟨(all >>> 16).toUInt16, (all &&& 0xFFFF).toUInt16⟩
  else .fail ("Invalid rule port range data, expecting 4 u8 array, but got " ++ debug buf)

def emit (v : RouteRealm) : Emitter :=
  .copy (ne.u32 (v.source.toUInt32 <<< 16 ||| v.destination.toUInt32))

end RouteRealm

section

variable [Host]

/-- `RouteCacheInfo`. -/
structure RouteCacheInfo where
  clntref : UInt32
  lastUse : UInt32
  expires : UInt32
  error : UInt32
  used : UInt32
  id : UInt32
  ts : UInt32
  tsAge : UInt32
deriving DecidableEq

/-- `RouteCacheInfoBuffer`: getters and setters of `RouteCacheInfo`. -/
def RouteCacheInfo.codec : StructCodec RouteCacheInfo where
  len := 32
  parse buf := do
    return {
      clntref := ← getU32 buf 0, lastUse := ← getU32 buf 4, expires := ← getU32 buf 8,
      error := ← getU32 buf 12, used := ← getU32 buf 16, id := ← getU32 buf 20,
      ts := ← getU32 buf 24, tsAge := ← getU32 buf 28 }
  layout v := [
    (0, ne.u32 v.clntref), (4, ne.u32 v.lastUse), (8, ne.u32 v.expires), (12, ne.u32 v.error),
    (16, ne.u32 v.used), (20, ne.u32 v.id), (24, ne.u32 v.ts), (28, ne.u32 v.tsAge)]
  tiles v := by simp [Tiles]
  length_layout v := by simp
  parse_layout v rest := by simp [getU32_append]
  parse_of_le b hb := by
    simp (disch := exact fits_of_le hb rfl) only [getU32_of_le, Outcome.ok_bind, Outcome.pure_eq]
    exact ⟨_, rfl⟩

/-- `RouteMfcStats`. -/
structure RouteMfcStats where
  packets : UInt64
  bytes : UInt64
  wrongIf : UInt64
deriving DecidableEq

/-- `RouteMfcStatsBuffer`: getters and setters of `RouteMfcStats`. -/
def RouteMfcStats.codec : StructCodec RouteMfcStats where
  len := 24
  parse buf := do
    return {
      packets := ← getU64 buf 0, bytes := ← getU64 buf 8, wrongIf := ← getU64 buf 16 }
  layout v := [
    (0, ne.u64 v.packets), (8, ne.u64 v.bytes), (16, ne.u64 v.wrongIf)]
  tiles v := by simp [Tiles]
  length_layout v := by simp
  parse_layout v rest := by simp [getU64_append]
  parse_of_le b hb := by
    simp (disch := exact fits_of_le hb rfl) only [getU64_of_le, Outcome.ok_bind, Outcome.pure_eq]
    exact ⟨_, rfl⟩

end

section

variable [PacketUtils]

abbrev RTAX_LOCK : UInt16 := 1
abbrev RTAX_MTU : UInt16 := 2
abbrev RTAX_WINDOW : UInt16 := 3
abbrev RTAX_RTT : UInt16 := 4
abbrev RTAX_RTTVAR : UInt16 := 5
abbrev RTAX_SSTHRESH : UInt16 := 6
abbrev RTAX_CWND : UInt16 := 7
abbrev RTAX_ADVMSS : UInt16 := 8
abbrev RTAX_REORDERING : UInt16 := 9
abbrev RTAX_HOPLIMIT : UInt16 := 10
abbrev RTAX_INITCWND : UInt16 := 11
abbrev RTAX_FEATURES : UInt16 := 12
abbrev RTAX_RTO_MIN : UInt16 := 13
abbrev RTAX_INITRWND : UInt16 := 14
abbrev RTAX_QUICKACK : UInt16 := 15
abbrev RTAX_CC_ALGO : UInt16 := 16
abbrev RTAX_FASTOPEN_NO_COOKIE : UInt16 := 17

/-- The attributes of `RTA_METRICS`. -/
inductive RouteMetric where
  | lock (v : UInt32)
  | mtu (v : UInt32)
  | window (v : UInt32)
  | rtt (v : UInt32)
  | rttVar (v : UInt32)
  | ssThresh (v : UInt32)
  | cwnd (v : UInt32)
  | advmss (v : UInt32)
  | reordering (v : UInt32)
  | hoplimit (v : UInt32)
  | initCwnd (v : UInt32)
  | features (v : UInt32)
  | rtoMin (v : UInt32)
  | initRwnd (v : UInt32)
  | quickAck (v : UInt32)
  | ccAlgo (v : UInt32)
  | fastopenNoCookie (v : UInt32)
  | other (v : DefaultNla)
deriving DecidableEq

namespace RouteMetric

def kind : RouteMetric → UInt16
  | .lock _ => RTAX_LOCK
  | .mtu _ => RTAX_MTU
  | .window _ => RTAX_WINDOW
  | .rtt _ => RTAX_RTT
  | .rttVar _ => RTAX_RTTVAR
  | .ssThresh _ => RTAX_SSTHRESH
  | .cwnd _ => RTAX_CWND
  | .advmss _ => RTAX_ADVMSS
  | .reordering _ => RTAX_REORDERING
  | .hoplimit _ => RTAX_HOPLIMIT
  | .initCwnd _ => RTAX_INITCWND
  | .features _ => RTAX_FEATURES
  | .rtoMin _ => RTAX_RTO_MIN
  | .initRwnd _ => RTAX_INITRWND
  | .quickAck _ => RTAX_QUICKACK
  | .ccAlgo _ => RTAX_CC_ALGO
  | .fastopenNoCookie _ => RTAX_FASTOPEN_NO_COOKIE
  | .other attr => attr.kind

def valueLen : RouteMetric → ℕ
  | .lock _ | .mtu _ | .window _ | .rtt _ | .rttVar _ | .ssThresh _ | .cwnd _ | .advmss _
  | .reordering _ | .hoplimit _ | .initCwnd _ | .features _ | .rtoMin _ | .initRwnd _
  | .quickAck _ | .ccAlgo _ | .fastopenNoCookie _ => 4
  | .other attr => attr.valueLen

def emitValue : RouteMetric → Emitter
  | .lock value | .mtu value | .window value | .rtt value | .rttVar value | .ssThresh value
  | .cwnd value | .advmss value | .reordering value | .hoplimit value | .initCwnd value
  | .features value | .rtoMin value | .initRwnd value | .quickAck value | .ccAlgo value
  | .fastopenNoCookie value => .put 0 (ne.u32 value)
  | .other attr => attr.emitValue

/-- The attribute, as the attribute layer sees it. -/
def nla (a : RouteMetric) : Nla := ⟨a.valueLen, a.kind, a.emitValue⟩

def parse (buf : NlaBuffer) : Outcome RouteMetric := do
  let payload ← value buf
  let kind ← PacketUtils.kind buf
  select kind [
    (RTAX_LOCK, .lock <$> (parseU32 payload).context "invalid RTAX_LOCK value"),
    (RTAX_MTU, .mtu <$> (parseU32 payload).context "invalid RTAX_MTU value"),
    (RTAX_WINDOW, .window <$> (parseU32 payload).context "invalid RTAX_WINDOW value"),
    (RTAX_RTT, .rtt <$> (parseU32 payload).context "invalid RTAX_RTT value"),
    (RTAX_RTTVAR, .rttVar <$> (parseU32 payload).context "invalid RTAX_RTTVAR value"),
    (RTAX_SSTHRESH, .ssThresh <$> (parseU32 payload).context "invalid RTAX_SSTHRESH value"),
    (RTAX_CWND, .cwnd <$> (parseU32 payload).context "invalid RTAX_CWND value"),
    (RTAX_ADVMSS, .advmss <$> (parseU32 payload).context "invalid RTAX_ADVMSS value"),
    (RTAX_REORDERING, .reordering <$> (parseU32 payload).context "invalid RTAX_REORDERING value"),
    (RTAX_HOPLIMIT, .hoplimit <$> (parseU32 payload).context "invalid RTAX_HOPLIMIT value"),
    (RTAX_INITCWND, .initCwnd <$> (parseU32 payload).context "invalid RTAX_INITCWND value"),
    (RTAX_FEATURES, .features <$> (parseU32 payload).context "invalid RTAX_FEATURES value"),
    (RTAX_RTO_MIN, .rtoMin <$> (parseU32 payload).context "invalid RTAX_RTO_MIN value"),
    (RTAX_INITRWND, .initRwnd <$> (parseU32 payload).context "invalid RTAX_INITRWND value"),
    (RTAX_QUICKACK, .quickAck <$> (parseU32 payload).context "invalid RTAX_QUICKACK value"),
    (RTAX_CC_ALGO, .ccAlgo <$> (parseU32 payload).context "invalid RTAX_CC_ALGO value"),
    (RTAX_FASTOPEN_NO_COOKIE,
      .fastopenNoCookie <$> (parseU32 payload).context "invalid RTAX_FASTOPEN_NO_COOKIE value")]
    (.other <$> (defaultNla buf).context "invalid NLA value (unknown type) value")

end RouteMetric

/-- `VecRouteMetric`. -/
def RouteMetric.parseVec (payload : Bytes) : Outcome (List RouteMetric) :=
  parseNlas "Invalid RTA_METRICS" "Invalid RTA_METRICS" RouteMetric.parse payload

end

/-! ## Attributes and next hops -/

abbrev RTA_DST : UInt16 := 1
abbrev RTA_SRC : UInt16 := 2
abbrev RTA_IIF : UInt16 := 3
abbrev RTA_OIF : UInt16 := 4
abbrev RTA_GATEWAY : UInt16 := 5
abbrev RTA_PRIORITY : UInt16 := 6
abbrev RTA_PREFSRC : UInt16 := 7
abbrev RTA_METRICS : UInt16 := 8
abbrev RTA_MULTIPATH : UInt16 := 9
abbrev RTA_FLOW : UInt16 := 11
abbrev RTA_CACHEINFO : UInt16 := 12
abbrev RTA_TABLE : UInt16 := 15
abbrev RTA_MARK : UInt16 := 16
abbrev RTA_MFC_STATS : UInt16 := 17
abbrev RTA_VIA : UInt16 := 18
abbrev RTA_NEWDST : UInt16 := 19
abbrev RTA_PREF : UInt16 := 20
abbrev RTA_ENCAP_TYPE : UInt16 := 21
abbrev RTA_ENCAP : UInt16 := 22
abbrev RTA_EXPIRES : UInt16 := 23
abbrev RTA_UID : UInt16 := 25
abbrev RTA_TTL_PROPAGATE : UInt16 := 26
abbrev RTA_NH_ID : UInt16 := 30

abbrev PAYLOAD_OFFSET : ℕ := 8

mutual

/-- `RouteAttribute`. -/
inductive RouteAttribute where
  | metrics (v : List RouteMetric)
  | mfcStats (v : RouteMfcStats)
  | multiPath (v : List RouteNextHop)
  | cacheInfo (v : RouteCacheInfo)
  | destination (v : RouteAddress)
  | source (v : RouteAddress)
  | gateway (v : RouteAddress)
  | prefSource (v : RouteAddress)
  | via (v : RouteVia)
  | newDestination (v : List MplsLabel)
  | preference (v : RoutePreference)
  | encapType (v : RouteLwEnCapType)
  | encap (v : List RouteLwTunnelEncap)
  | expires (v : UInt32)
  | multicastExpires (v : UInt64)
  | uid (v : UInt32)
  | ttlPropagate (v : RouteMplsTtlPropagation)
  | iif (v : UInt32)
  | oif (v : UInt32)
  | priority (v : UInt32)
  | realm (v : RouteRealm)
  | table (v : UInt32)
  | mark (v : UInt32)
  | nhid (v : UInt32)
  | other (v : DefaultNla)

/-- `RouteNextHop`. The flags keep unknown bits. -/
structure RouteNextHop where
  flags : UInt8
  hops : UInt8
  interfaceIndex : UInt32
  attributes : List RouteAttribute

end

def RouteAttribute.kind : RouteAttribute → UInt16
  | .destination _ => RTA_DST
  | .source _ => RTA_SRC
  | .iif _ => RTA_IIF
  | .oif _ => RTA_OIF
  | .gateway _ => RTA_GATEWAY
  | .priority _ => RTA_PRIORITY
  | .prefSource _ => RTA_PREFSRC
  | .metrics _ => RTA_METRICS
  | .multiPath _ => RTA_MULTIPATH
  | .realm _ => RTA_FLOW
  | .cacheInfo _ => RTA_CACHEINFO
  | .table _ => RTA_TABLE
  | .mark _ => RTA_MARK
  | .mfcStats _ => RTA_MFC_STATS
  | .via _ => RTA_VIA
  | .newDestination _ => RTA_NEWDST
  | .preference _ => RTA_PREF
  | .encapType _ => RTA_ENCAP_TYPE
  | .encap _ => RTA_ENCAP
  | .expires _ => RTA_EXPIRES
  | .multicastExpires _ => RTA_EXPIRES
  | .uid _ => RTA_UID
  | .ttlPropagate _ => RTA_TTL_PROPAGATE
  | .nhid _ => RTA_NH_ID
  | .other attr => attr.kind

section

variable [PacketUtils]

mutual

def RouteAttribute.valueLen : RouteAttribute → ℕ
  | .destination addr | .prefSource addr | .gateway addr | .source addr => addr.bufferLen
  | .via v => v.bufferLen
  | .newDestination v => VecMplsLabel.bufferLen v
  | .encap v => nlasLen (v.map RouteLwTunnelEncap.nla)
  | .ttlPropagate _ => 1
  | .cacheInfo _ => RouteCacheInfo.codec.len
  | .mfcStats _ => RouteMfcStats.codec.len
  | .metrics metrics => nlasLen (metrics.map RouteMetric.nla)
  | .multiPath nextHops => RouteNextHop.bufferLenSum nextHops
  | .preference _ => 1
  | .encapType _ => RouteLwEnCapType.bufferLen
  | .realm _ => RULE_REALM_LEN
  | .uid _ | .expires _ | .iif _ | .oif _ | .priority _ | .table _ | .mark _ | .nhid _ => 4
  | .multicastExpires _ => 8
  | .other attr => attr.valueLen

def RouteNextHop.bufferLen : RouteNextHop → ℕ
  | ⟨_, _, _, attributes⟩ => PAYLOAD_OFFSET + RouteAttribute.bufferLenSum attributes

/-- The space a list of next hops takes. -/
def RouteNextHop.bufferLenSum : List RouteNextHop → ℕ
  | [] => 0
  | nh :: nhs => nh.bufferLen + RouteNextHop.bufferLenSum nhs

/-- The space a list of attributes takes. -/
def RouteAttribute.bufferLenSum : List RouteAttribute → ℕ
  | [] => 0
  | a :: as => nlaAlign a.valueLen + 4 + RouteAttribute.bufferLenSum as

end

mutual

def RouteAttribute.emitValue : RouteAttribute → Emitter
  | .destination addr | .prefSource addr | .source addr | .gateway addr => addr.emit
  | .via v => v.emit
  | .newDestination v => VecMplsLabel.emit v
  | .encap nlas => emitNlas (nlas.map RouteLwTunnelEncap.nla)
  | .ttlPropagate v => .put 0 [RouteMplsTtlPropagation.codec.toNum v]
  | .preference p => .put 0 [RoutePreference.codec.toNum p]
  | .cacheInfo cacheInfo => RouteCacheInfo.codec.emit cacheInfo
  | .mfcStats stats => RouteMfcStats.codec.emit stats
  | .metrics metrics => emitNlas (metrics.map RouteMetric.nla)
  | .multiPath nextHops => inTurn (RouteNextHop.items nextHops)
  | .encapType v => v.emit
  | .uid value | .expires value | .iif value | .oif value | .priority value | .table value
  | .mark value | .nhid value => .put 0 (ne.u32 value)
  | .realm v => v.emit
  | .multicastExpires value => .put 0 (ne.u64 value)
  | .other attr => attr.emitValue

/-- The length field has sixteen bits. -/
def RouteNextHop.emit : RouteNextHop → Emitter
  | ⟨flags, hops, interfaceIndex, attributes⟩ =>
    (fields [(0, ne.u16 (UInt16.ofNat (PAYLOAD_OFFSET + RouteAttribute.bufferLenSum attributes))),
      (2, [flags]), (3, [hops]), (4, ne.u32 interfaceIndex)]).andThen
        (onTail PAYLOAD_OFFSET (emitNlas (RouteAttribute.nlas attributes)))

/-- Next hops with their lengths. -/
def RouteNextHop.items : List RouteNextHop → List (ℕ × Emitter)
  | [] => []
  | nh :: nhs => (nh.bufferLen, nh.emit) :: RouteNextHop.items nhs

/-- Attributes, as the attribute layer sees them. -/
def RouteAttribute.nlas : List RouteAttribute → List Nla
  | [] => []
  | a :: as => ⟨a.valueLen, a.kind, a.emitValue⟩ :: RouteAttribute.nlas as

end

/-- The attribute, as the attribute layer sees it. -/
def RouteAttribute.nla (a : RouteAttribute) : Nla := ⟨a.valueLen, a.kind, a.emitValue⟩

namespace RouteNextHop

/-- `RouteNextHopBuffer::new_checked`. The second error's text adds two
`u16`. -/
def newChecked (buffer : Bytes) : Outcome Bytes :=
  if buffer.length < PAYLOAD_OFFSET then
    .fail ("invalid RouteNextHopBuffer: length " ++ toString buffer.length ++ " < 8")
  else do
    let length ← getU16 buffer 0
    if buffer.length < length.toNat then do
      let sum ← addU16 8 length
      .fail ("invalid RouteNextHopBuffer: length " ++ toString buffer.length ++ " < " ++
        toString sum)
    else .ok buffer

/-- `RouteNextHopBuffer::attributes`. -/
def attributesOf (buf : Bytes) : Outcome (List (Outcome NlaBuffer)) := do
  let payload ← sliceFrom buf PAYLOAD_OFFSET
  let length ← getU16 buf 0
  let attributes ← slice payload 0 (← subUsize length.toNat PAYLOAD_OFFSET)
  .ok (nlas attributes)

/-- `RouteNextHop::parse_with_param`, over the parser of its attributes. -/
def parse (parseAttribute : NlaBuffer → Outcome RouteAttribute) (buf : Bytes) :
    Outcome RouteNextHop := do
  let checked ← (newChecked buf).context "cannot parse route attributes in next-hop"
  let attributes ← (do
    forEach (fun nla => do parseAttribute (← nla)) (← attributesOf checked)).context
      "cannot parse route attributes in next-hop"
  return {
    flags := ← getU8 buf 2, hops := ← getU8 buf 3, interfaceIndex := ← getU32 buf 4, attributes }

/-- The loop of `RTA_MULTIPATH`: next hops until the last one ends where
the payload does. -/
def parseLoop (parseAttribute : NlaBuffer → Outcome RouteAttribute) :
    ℕ → Bytes → Outcome (List RouteNextHop)
  | 0, _ => .panic
  | fuel + 1, buf => do
    let nhBuf ← (newChecked buf).context "invalid RTA_MULTIPATH value"
    let len ← getU16 nhBuf 0
    let nh ← (parse parseAttribute nhBuf).context "invalid RTA_MULTIPATH value"
    if buf.length = len.toNat then .ok [nh]
    else do
      let nhs ← parseLoop parseAttribute fuel (← sliceFrom buf len.toNat)
      .ok (nh :: nhs)

end RouteNextHop

/-- What the decoding of an attribute depends on besides its bytes. -/
structure RouteContext where
  addressFamily : AddressFamily
  routeType : RouteType
  encapType : RouteLwEnCapType
deriving DecidableEq

namespace RouteAttribute

/-- `RTA_EXPIRES`. -/
def parseExpires (routeType : RouteType) (payload : Bytes) : Outcome RouteAttribute :=
  if routeType = .multicast then
    .multicastExpires <$>
      (parseU64 payload).context ("invalid RTA_EXPIRES (multicast) value " ++ debug payload)
  else .expires <$> (parseU32 payload).context ("invalid RTA_EXPIRES value " ++ debug payload)

/-- The arms of `RouteAttribute::parse_with_param`, over the parser of the
attributes of a next hop. -/
def arms (parseAttribute : NlaBuffer → Outcome RouteAttribute) (ctx : RouteContext)
    (buf : NlaBuffer) (payload : Bytes) : List (UInt16 × Outcome RouteAttribute) := [
  (RTA_DST, .destination <$> RouteAddress.parse ctx.addressFamily payload),
  (RTA_SRC, .source <$> RouteAddress.parse ctx.addressFamily payload),
  (RTA_GATEWAY, .gateway <$> RouteAddress.parse ctx.addressFamily payload),
  (RTA_PREFSRC, .prefSource <$> RouteAddress.parse ctx.addressFamily payload),
  (RTA_VIA, .via <$> RouteVia.parseChecked payload),
  (RTA_NEWDST, .newDestination <$>
    (VecMplsLabel.parse payload).context ("Invalid RTA_NEWDST value " ++ debug payload)),
  (RTA_PREF, (.preference ∘ RoutePreference.codec.ofNum) <$> parseU8 payload),
  (RTA_ENCAP, .encap <$> RouteLwTunnelEncap.parseVec ctx.encapType buf),
  (RTA_EXPIRES, parseExpires ctx.routeType payload),
  (RTA_UID, .uid <$> (parseU32 payload).context ("invalid RTA_UID value " ++ debug payload)),
  (RTA_TTL_PROPAGATE, (.ttlPropagate ∘ RouteMplsTtlPropagation.codec.ofNum) <$>
    (parseU8 payload).context ("invalid RTA_TTL_PROPAGATE " ++ debug payload)),
  (RTA_ENCAP_TYPE, (.encapType ∘ RouteLwEnCapType.codec.ofNum) <$>
    (parseU16 payload).context "invalid RTA_ENCAP_TYPE value"),
  (RTA_IIF, .iif <$> (parseU32 payload).context "invalid RTA_IIF value"),
  (RTA_OIF, .oif <$> (parseU32 payload).context "invalid RTA_OIF value"),
  (RTA_PRIORITY, .priority <$> (parseU32 payload).context "invalid RTA_PRIORITY value"),
  (RTA_FLOW, .realm <$> (RouteRealm.parse payload).context "invalid RTA_FLOW value"),
  (RTA_TABLE, .table <$> (parseU32 payload).context "invalid RTA_TABLE value"),
  (RTA_MARK, .mark <$> (parseU32 payload).context "invalid RTA_MARK value"),
  (RTA_CACHEINFO, .cacheInfo <$> RouteCacheInfo.codec.parseChecked "RouteCacheInfoBuffer"
    "invalid RTA_CACHEINFO value" payload),
  (RTA_MFC_STATS, .mfcStats <$> RouteMfcStats.codec.parseChecked "RouteMfcStatsBuffer"
    "invalid RTA_MFC_STATS value" payload),
  (RTA_METRICS, .metrics <$>
    (RouteMetric.parseVec payload).context "invalid RTA_METRICS value"),
  (RTA_MULTIPATH, .multiPath <$>
    RouteNextHop.parseLoop parseAttribute (payload.length + 1) payload)]

/-- `RouteAttribute::parse_with_param`, over the parser of the attributes
of a next hop. -/
def parseOver (parseAttribute : NlaBuffer → Outcome RouteAttribute) (ctx : RouteContext)
    (buf : NlaBuffer) : Outcome RouteAttribute := do
  let payload ← value buf
  let kind ← PacketUtils.kind buf
  select kind (arms parseAttribute ctx buf payload)
    (.other <$> (defaultNla buf).context "invalid NLA (unknown kind)")

/-- With so many levels of next hops left. -/
def parseAt (ctx : RouteContext) : ℕ → NlaBuffer → Outcome RouteAttribute
  | 0 => fun _ => .panic
  | depth + 1 => parseOver (parseAt ctx depth) ctx

/-- `RouteAttribute::parse_with_param`. -/
def parseWithParam (ctx : RouteContext) (buf : NlaBuffer) : Outcome RouteAttribute :=
  parseAt ctx (buf.buffer.length + 1) buf

end RouteAttribute

end

/-! ## Messages -/

/-- `RouteMessage`. -/
structure RouteMessage where
  header : RouteHeader
  attributes : List RouteAttribute

namespace RouteMessage

variable [PacketUtils]

def bufferLen (m : RouteMessage) : ℕ :=
  RouteHeader.bufferLen + nlasLen (m.attributes.map RouteAttribute.nla)

def emit (m : RouteMessage) : Emitter :=
  m.header.emit.andThen
    (onTail RouteHeader.bufferLen (emitNlas (m.attributes.map RouteAttribute.nla)))

/-- The first pass: the first `RTA_ENCAP_TYPE` that can be read. -/
def findEncapType (addressFamily : AddressFamily) (routeType : RouteType) :
    List (Outcome NlaBuffer) → Outcome RouteLwEnCapType
  | [] => .ok .none
  | .panic :: _ => .panic
  | .err _ :: rest => findEncapType addressFamily routeType rest
  | .ok nla :: rest => do
    if (← kind nla) = RTA_ENCAP_TYPE then
      match RouteAttribute.parseWithParam ⟨addressFamily, routeType, .none⟩ nla with
      | .ok (.encapType v) => .ok v
      | .panic => .panic
      | _ => findEncapType addressFamily routeType rest
    else findEncapType addressFamily routeType rest

/-- `Vec<RouteAttribute>::parse_with_param`. -/
def parseAttributes (buf : Bytes) (addressFamily : AddressFamily) (routeType : RouteType) :
    Outcome (List RouteAttribute) := do
  let payload ← sliceFrom buf RouteHeader.bufferLen
  let encapType ← findEncapType addressFamily routeType (nlas payload)
  forEach (fun nla => do
    RouteAttribute.parseWithParam ⟨addressFamily, routeType, encapType⟩ (← nla)) (nlas payload)

def parse (buf : Bytes) : Outcome RouteMessage := do
  let header ← (RouteHeader.parse buf).context "failed to parse route message header"
  let attributes ← (parseAttributes buf header.addressFamily header.kind).context
    "failed to parse route message NLAs"
  .ok ⟨header, attributes⟩

/-- `RouteMessageBuffer::new_checked`, then `RouteMessage::parse`. -/
def decode (b : Bytes) : Outcome RouteMessage := do
  parse (← checkedBuffer "RouteMessageBuffer" RouteHeader.bufferLen b)

end RouteMessage

end NetlinkRoute
