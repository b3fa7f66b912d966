import NetlinkRoute.Family
import NetlinkRoute.Common.Struct
/-!
# Route — lightweight tunnel encapsulations

`RTA_ENCAP` holds a list of attributes whose meaning `RTA_ENCAP_TYPE`
selects: an MPLS label stack, an IPv6 segment routing header to push, or
a local segment routing action. All other encapsulations are kept as they
are.
-/

namespace NetlinkRoute

open PacketUtils Emitter

/-! ## MPLS -/

abbrev MPLS_LS_LABEL_MASK : UInt32 := 0xFFFFF000
abbrev MPLS_LS_LABEL_SHIFT : UInt32 := 12
abbrev MPLS_LS_TC_MASK : UInt32 := 0x00000E00
abbrev MPLS_LS_TC_SHIFT : UInt32 := 9
abbrev MPLS_LS_S_MASK : UInt32 := 0x00000100
abbrev MPLS_LS_S_SHIFT : UInt32 := 8
abbrev MPLS_LS_TTL_MASK : UInt32 := 0x000000FF
abbrev MPLS_LS_TTL_SHIFT : UInt32 := 0

/-- One entry of a label stack. The fields are wider than the bits they
take on the wire. -/
structure MplsLabel where
  label : UInt32
  trafficClass : UInt8
  bottomOfStack : Bool
  ttl : UInt8
deriving DecidableEq

namespace MplsLabel

/-- `From<u32> for MplsLabel`. -/
def ofU32 (d : UInt32) : MplsLabel where
  label := (d &&& MPLS_LS_LABEL_MASK) >>> MPLS_LS_LABEL_SHIFT
  trafficClass := ((d &&& MPLS_LS_TC_MASK) >>> MPLS_LS_TC_SHIFT).toUInt8
  bottomOfStack := decide (d &&& MPLS_LS_S_MASK > 0)
  ttl := (d &&& MPLS_LS_TTL_MASK).toUInt8

/-- `From<MplsLabel> for u32`. -/
def toU32 (v : MplsLabel) : UInt32 :=
  v.label <<< MPLS_LS_LABEL_SHIFT ||| v.trafficClass.toUInt32 <<< MPLS_LS_TC_SHIFT |||
    v.bottomOfStack.toUInt32 <<< MPLS_LS_S_SHIFT ||| v.ttl.toUInt32 <<< MPLS_LS_TTL_SHIFT

def parse (payload : Bytes) : Outcome MplsLabel :=
  if payload.length = 4 then .ok (ofU32 (be.toU32 payload))
  else .fail ("Invalid u8 array length " ++ toString payload.length ++
    ", expecting 4 bytes for MPLS label, got " ++ debug payload)

abbrev bufferLen : ℕ := 4

def emit (v : MplsLabel) : Emitter := .copy (be.u32 v.toU32)

end MplsLabel

namespace VecMplsLabel

/-- Labels are read while four bytes remain; what is left over is not
looked at. -/
def parse : Bytes → Outcome (List MplsLabel)
  | a :: b :: c :: d :: rest => do
    let label ← MplsLabel.parse [a, b, c, d]
    let labels ← parse rest
    .ok (label :: labels)
  | _ => .ok []

def bufferLen (labels : List MplsLabel) : ℕ := labels.length * 4

def emit (labels : List MplsLabel) : Emitter := inTurn (labels.map fun label => (4, label.emit))

end VecMplsLabel

section

variable [PacketUtils]

abbrev MPLS_IPTUNNEL_DST : UInt16 := 1
abbrev MPLS_IPTUNNEL_TTL : UInt16 := 2

/-- The attributes of an MPLS encapsulation. -/
inductive RouteMplsIpTunnel where
  | destination (v : List MplsLabel)
  | ttl (v : UInt8)
  | other (v : DefaultNla)
deriving DecidableEq

namespace RouteMplsIpTunnel

def kind : RouteMplsIpTunnel → UInt16
  | .destination _ => MPLS_IPTUNNEL_DST
  | .ttl _ => MPLS_IPTUNNEL_TTL
  | .other attr => attr.kind

def valueLen : RouteMplsIpTunnel → ℕ
  | .destination v => VecMplsLabel.bufferLen v
  | .ttl _ => 1
  | .other attr => attr.valueLen

def emitValue : RouteMplsIpTunnel → Emitter
  | .destination v => VecMplsLabel.emit v
  | .ttl v => .put 0 [v]
  | .other attr => attr.emitValue

/-- The attribute, as the attribute layer sees it. -/
def nla (a : RouteMplsIpTunnel) : Nla := ⟨a.valueLen, a.kind, a.emitValue⟩

def parse (buf : NlaBuffer) : Outcome RouteMplsIpTunnel := do
  let payload ← value buf
  let kind ← PacketUtils.kind buf
  select kind [
    (MPLS_IPTUNNEL_DST,
      .destination <$>
        (VecMplsLabel.parse payload).context ("invalid MPLS_IPTUNNEL_DST value " ++ debug payload)),
    (MPLS_IPTUNNEL_TTL, .ttl <$> (parseU8 payload).context "invalid MPLS_IPTUNNEL_TTL value")]
    (.other <$> (defaultNla buf).context "invalid NLA value (unknown type) value")

end RouteMplsIpTunnel

end

abbrev MPLS_TTL_PROP_DEFAULT : UInt8 := 0
abbrev MPLS_TTL_PROP_ENABLED : UInt8 := 1
abbrev MPLS_TTL_PROP_DISABLED : UInt8 := 2

/-- `RouteMplsTtlPropagation`. -/
inductive RouteMplsTtlPropagation where
  | default_ | enabled | disabled | other (d : UInt8)
deriving DecidableEq

/-- The numbers of `RouteMplsTtlPropagation`. -/
def RouteMplsTtlPropagation.codec : EnumCodec UInt8 RouteMplsTtlPropagation where
  arms := [(MPLS_TTL_PROP_DEFAULT, .default_), (MPLS_TTL_PROP_ENABLED, .enabled),
    (MPLS_TTL_PROP_DISABLED, .disabled)]
  other := .other
  toNum
    | .default_ => MPLS_TTL_PROP_DEFAULT | .enabled => MPLS_TTL_PROP_ENABLED
    | .disabled => MPLS_TTL_PROP_DISABLED | .other d => d
  toNum_arm := by decide
  toNum_other _ := rfl

/-! ## Segment routing headers -/

abbrev SR6_TLV_HMAC : UInt8 := 5

/-- `HmacTlv`. -/
structure HmacTlv where
  dBit : Bool
  hmacKeyId : UInt32
  hmac : Bytes
deriving DecidableEq

/-- `Ipv6SrHdrTlv`. -/
inductive Ipv6SrHdrTlv where
  | hmac (v : HmacTlv)
deriving DecidableEq

/-- An IPv6 segment routing header. -/
structure Ipv6SrHdr where
  nexthdr : UInt8
  hdrlen : UInt8
  typ : UInt8
  segmentsLeft : UInt8
  firstSegment : UInt8
  flags : UInt8
  tag : UInt16
  segments : List Ipv6Addr
  tlvs : List Ipv6SrHdrTlv
deriving DecidableEq

/-- `while !segments.is_empty()`: sixteen bytes at a time. -/
def segmentsLoop : ℕ → Bytes → Outcome (List Ipv6Addr)
  | 0, _ => .ok []
  | fuel + 1, segments =>
    if segments = [] then .ok []
    else do
      let bytes ← slice segments 0 16
      let rest ← sliceFrom segments 16
      let more ← segmentsLoop fuel rest
      .ok (Octets.ofBytes 16 bytes :: more)

/-- The addresses a list of bytes is made of. -/
def parseSegments (segments : Bytes) : Outcome (List Ipv6Addr) :=
  segmentsLoop segments.length segments

namespace Ipv6SrHdr

variable [PacketUtils]

/-- The first eight bytes of a header; neither segments nor TLVs yet. -/
def parseFixed (payload : Bytes) : Outcome Ipv6SrHdr := do
  return {
    nexthdr := ← index payload 0
    hdrlen := ← index payload 1
    typ := ← index payload 2
    segmentsLeft := ← index payload 3
    firstSegment := ← index payload 4
    flags := ← index payload 5
    tag := ← (parseU16 (← slice payload 6 8)).context "invalid IPv6 segment routing header tag"
    segments := []
    tlvs := [] }

/-- What follows the segments: nothing, or a TLV header. Only an HMAC is
kept. -/
def parseTlvs (payload : Bytes) : Outcome (List Ipv6SrHdrTlv) :=
  if payload = [] then .ok []
  else if payload.length < 4 then
    .fail ("Invalid TLV header length " ++ toString payload.length ++
      ", expecting at least 4 bytes for TLV header, got " ++ debug payload)
  else do
    let typ ← index payload 0
    let length ← index payload 1
    if typ = SR6_TLV_HMAC then
      if length ≠ 38 then
        .fail ("Invalid HMAC header length " ++ toString payload.length ++
          ", expecting 38 bytes for TLV header, got " ++ debug payload)
      else do
        let resv1 ← index payload 2
        let hmacKeyId ← (parseU32Be (← slice payload 4 8)).context
          "invalid IPv6 segment routing header tag"
        let payload ← sliceFrom payload 8
        let hmacData ← slice payload 0 32
        .ok [.hmac ⟨decide (resv1 &&& 0x80 = 0x80), hmacKeyId, hmacData⟩]
    else .ok []

def parse (payload : Bytes) : Outcome Ipv6SrHdr :=
  if payload.length < 8 then
    .fail ("Invalid u8 array length " ++ toString payload.length ++
      ", expecting 8 bytes for IPv6 segment routing header, got " ++ debug payload)
  else do
    let hdr ← parseFixed payload
    let payload ← sliceFrom payload 8
    -- `u8` arithmetic, widened only afterwards
    let seglen ← mulU8 (← addU8 hdr.segmentsLeft 1) 16
    if payload.length < seglen.toNat then
      .fail ("Invalid u8 array alignment " ++ toString payload.length ++
        ", expecting 16 bytes for IPv6 segments, got " ++ debug payload)
    else do
      let segments ← parseSegments (← slice payload 0 seglen.toNat)
      let tlvs ← parseTlvs (← sliceFrom payload seglen.toNat)
      .ok { hdr with segments, tlvs }

def bufferLen (v : Ipv6SrHdr) : ℕ := 8 + v.segments.length * 16

/-- The places of the first eight bytes. -/
def layout (v : Ipv6SrHdr) : List (ℕ × Bytes) := [
  (0, [v.nexthdr]), (1, [v.hdrlen]), (2, [v.typ]), (3, [v.segmentsLeft]), (4, [v.firstSegment]),
  (5, [v.flags]), (6, ne.u16 v.tag)]

/-- TLVs have no room in `bufferLen` and are not written. -/
def emit (v : Ipv6SrHdr) : Emitter :=
  (fields v.layout).andThen (onTail 8 (inTurn (v.segments.map fun s => (16, .copy s.val))))

end Ipv6SrHdr

/-! ## Segment routing, the headers a route pushes -/

abbrev SEG6_IPTUN_MODE_INLINE : UInt32 := 0
abbrev SEG6_IPTUN_MODE_ENCAP : UInt32 := 1
abbrev SEG6_IPTUN_MODE_L2ENCAP : UInt32 := 2
abbrev SEG6_IPTUN_MODE_ENCAP_RED : UInt32 := 3
abbrev SEG6_IPTUN_MODE_L2ENCAP_RED : UInt32 := 4

/-- How the header is put on a packet. -/
inductive Seg6IpTunnelMode where
  | inline | encap | l2Encap | encapRed | l2EncapRed | other (d : UInt32)
deriving DecidableEq

/-- The numbers of `Seg6IpTunnelMode`. -/
def Seg6IpTunnelMode.codec : EnumCodec UInt32 Seg6IpTunnelMode where
  arms := [(SEG6_IPTUN_MODE_INLINE, .inline), (SEG6_IPTUN_MODE_ENCAP, .encap),
    (SEG6_IPTUN_MODE_L2ENCAP, .l2Encap), (SEG6_IPTUN_MODE_ENCAP_RED, .encapRed),
    (SEG6_IPTUN_MODE_L2ENCAP_RED, .l2EncapRed)]
  other := .other
  toNum
    | .inline => SEG6_IPTUN_MODE_INLINE | .encap => SEG6_IPTUN_MODE_ENCAP
    | .l2Encap => SEG6_IPTUN_MODE_L2ENCAP | .encapRed => SEG6_IPTUN_MODE_ENCAP_RED
    | .l2EncapRed => SEG6_IPTUN_MODE_L2ENCAP_RED | .other d => d
  toNum_arm := by decide
  toNum_other _ := rfl

/-- `Seg6IpTunnelEncap`. -/
structure Seg6IpTunnelEncap where
  mode : Seg6IpTunnelMode
  ipv6SrHdr : List Ipv6SrHdr
deriving DecidableEq

namespace Seg6IpTunnelEncap

variable [PacketUtils]

/-- All that follows the fixed part is segments, whatever its count field
says. -/
def parse (payload : Bytes) : Outcome Seg6IpTunnelEncap :=
  if payload.length < 4 then
    .fail ("Invalid u8 array length " ++ toString payload.length ++
      ", expecting 4 bytes for IPv6 segment routing mode, got " ++ debug payload)
  else do
    let mode ← (parseU32 (← slice payload 0 4)).context "invalid IPv6 segment routing mode"
    let payload ← sliceFrom payload 4
    if payload.length < 8 then
      .fail ("Invalid u8 array length " ++ toString payload.length ++
        ", expecting 8 bytes for IPv6 segment routing header, got " ++ debug payload)
    else do
      let hdr ← Ipv6SrHdr.parseFixed payload
      let payload ← sliceFrom payload 8
      if payload.length % 16 ≠ 0 then
        .fail ("Invalid u8 array alignment " ++ toString payload.length ++
          ", expecting 16 bytes for IPv6 segments, got " ++ debug payload)
      else do
        let segments ← parseSegments payload
        .ok ⟨Seg6IpTunnelMode.codec.ofNum mode, [{ hdr with segments }]⟩

def bufferLen (v : Seg6IpTunnelEncap) : ℕ := 4 + (v.ipv6SrHdr.map Ipv6SrHdr.bufferLen).sum

def emit (v : Seg6IpTunnelEncap) : Emitter :=
  (put 0 (ne.u32 (Seg6IpTunnelMode.codec.toNum v.mode))).andThen
    (onTail 4 (inTurn (v.ipv6SrHdr.map fun hdr => (hdr.bufferLen, hdr.emit))))

end Seg6IpTunnelEncap

section

variable [PacketUtils]

abbrev SEG6_IPTUNNEL_SRH : UInt16 := 1

/-- The attributes of a segment routing encapsulation. -/
inductive RouteSeg6IpTunnel where
  | seg6IpTunnel (v : Seg6IpTunnelEncap)
  | other (v : DefaultNla)
deriving DecidableEq

namespace RouteSeg6IpTunnel

def kind : RouteSeg6IpTunnel → UInt16
  | .seg6IpTunnel _ => SEG6_IPTUNNEL_SRH
  | .other attr => attr.kind

def valueLen : RouteSeg6IpTunnel → ℕ
  | .seg6IpTunnel v => v.bufferLen
  | .other attr => attr.valueLen

def emitValue : RouteSeg6IpTunnel → Emitter
  | .seg6IpTunnel v => v.emit
  | .other attr => attr.emitValue

/-- The attribute, as the attribute layer sees it. -/
def nla (a : RouteSeg6IpTunnel) : Nla := ⟨a.valueLen, a.kind, a.emitValue⟩

def parse (buf : NlaBuffer) : Outcome RouteSeg6IpTunnel := do
  let payload ← value buf
  let kind ← PacketUtils.kind buf
  select kind [
    (SEG6_IPTUNNEL_SRH,
      .seg6IpTunnel <$> (Seg6IpTunnelEncap.parse payload).context
        ("invalid SEG6_IPTUNNEL_SRH value " ++ debug payload))]
    (.other <$> (defaultNla buf).context "invalid NLA value (unknown type) value")

end RouteSeg6IpTunnel

end

/-! ## Local segment routing actions -/

abbrev SEG6_LOCAL_ACTION_UNSPEC : UInt32 := 0
abbrev SEG6_LOCAL_ACTION_END : UInt32 := 1
abbrev SEG6_LOCAL_ACTION_END_X : UInt32 := 2
abbrev SEG6_LOCAL_ACTION_END_T : UInt32 := 3
abbrev SEG6_LOCAL_ACTION_END_DX2 : UInt32 := 4
abbrev SEG6_LOCAL_ACTION_END_DX6 : UInt32 := 5
abbrev SEG6_LOCAL_ACTION_END_DX4 : UInt32 := 6
abbrev SEG6_LOCAL_ACTION_END_DT6 : UInt32 := 7
abbrev SEG6_LOCAL_ACTION_END_DT4 : UInt32 := 8
abbrev SEG6_LOCAL_ACTION_END_B6 : UInt32 := 9
abbrev SEG6_LOCAL_ACTION_END_B6_ENCAP : UInt32 := 10
abbrev SEG6_LOCAL_ACTION_END_BM : UInt32 := 11
abbrev SEG6_LOCAL_ACTION_END_S : UInt32 := 12
abbrev SEG6_LOCAL_ACTION_END_AS : UInt32 := 13
abbrev SEG6_LOCAL_ACTION_END_AM : UInt32 := 14
abbrev SEG6_LOCAL_ACTION_END_BPF : UInt32 := 15
abbrev SEG6_LOCAL_ACTION_END_DT46 : UInt32 := 16

/-- What is done with a packet whose active segment this is. -/
inductive Seg6LocalAction where
  | unspec | end_ | endX | endT | endDx2 | endDx6 | endDx4 | endDt6 | endDt4 | endB6 | endB6Encap
  | endBm | endS | endAs | endAm | endBpf | endDt46 | other (d : UInt32)
deriving DecidableEq

/-- The numbers of `Seg6LocalAction`. -/
def Seg6LocalAction.codec : EnumCodec UInt32 Seg6LocalAction where
  arms := [(SEG6_LOCAL_ACTION_UNSPEC, .unspec), (SEG6_LOCAL_ACTION_END, .end_),
    (SEG6_LOCAL_ACTION_END_X, .endX), (SEG6_LOCAL_ACTION_END_T, .endT),
    (SEG6_LOCAL_ACTION_END_DX2, .endDx2), (SEG6_LOCAL_ACTION_END_DX6, .endDx6),
    (SEG6_LOCAL_ACTION_END_DX4, .endDx4), (SEG6_LOCAL_ACTION_END_DT6, .endDt6),
    (SEG6_LOCAL_ACTION_END_DT4, .endDt4), (SEG6_LOCAL_ACTION_END_B6, .endB6),
    (SEG6_LOCAL_ACTION_END_B6_ENCAP, .endB6Encap), (SEG6_LOCAL_ACTION_END_BM, .endBm),
    (SEG6_LOCAL_ACTION_END_S, .endS), (SEG6_LOCAL_ACTION_END_AS, .endAs),
    (SEG6_LOCAL_ACTION_END_AM, .endAm), (SEG6_LOCAL_ACTION_END_BPF, .endBpf),
    (SEG6_LOCAL_ACTION_END_DT46, .endDt46)]
  other := .other
  toNum
    | .unspec => SEG6_LOCAL_ACTION_UNSPEC | .end_ => SEG6_LOCAL_ACTION_END
    | .endX => SEG6_LOCAL_ACTION_END_X | .endT => SEG6_LOCAL_ACTION_END_T
    | .endDx2 => SEG6_LOCAL_ACTION_END_DX2 | .endDx6 => SEG6_LOCAL_ACTION_END_DX6
    | .endDx4 => SEG6_LOCAL_ACTION_END_DX4 | .endDt6 => SEG6_LOCAL_ACTION_END_DT6
    | .endDt4 => SEG6_LOCAL_ACTION_END_DT4 | .endB6 => SEG6_LOCAL_ACTION_END_B6
    | .endB6Encap => SEG6_LOCAL_ACTION_END_B6_ENCAP | .endBm => SEG6_LOCAL_ACTION_END_BM
    | .endS => SEG6_LOCAL_ACTION_END_S | .endAs => SEG6_LOCAL_ACTION_END_AS
    | .endAm => SEG6_LOCAL_ACTION_END_AM | .endBpf => SEG6_LOCAL_ACTION_END_BPF
    | .endDt46 => SEG6_LOCAL_ACTION_END_DT46 | .other d => d
  toNum_arm := by decide
  toNum_other _ := rfl

abbrev SEG6_LOCAL_FLV_OP_UNSPEC : UInt32 := 1
abbrev SEG6_LOCAL_FLV_OP_PSP : UInt32 := 2
abbrev SEG6_LOCAL_FLV_OP_USP : UInt32 := 4
abbrev SEG6_LOCAL_FLV_OP_USD : UInt32 := 8
abbrev SEG6_LOCAL_FLV_OP_NEXT_CSID : UInt32 := 16

/-- `Seg6LocalFlavorOps`. -/
inductive Seg6LocalFlavorOps where
  | unspec | psp | usp | usd | nextCsid | other (d : UInt32)
deriving DecidableEq

/-- The numbers of `Seg6LocalFlavorOps`. -/
def Seg6LocalFlavorOps.codec : EnumCodec UInt32 Seg6LocalFlavorOps where
  arms := [(SEG6_LOCAL_FLV_OP_UNSPEC, .unspec), (SEG6_LOCAL_FLV_OP_PSP, .psp),
    (SEG6_LOCAL_FLV_OP_USP, .usp), (SEG6_LOCAL_FLV_OP_USD, .usd),
    (SEG6_LOCAL_FLV_OP_NEXT_CSID, .nextCsid)]
  other := .other
  toNum
    | .unspec => SEG6_LOCAL_FLV_OP_UNSPEC | .psp => SEG6_LOCAL_FLV_OP_PSP
    | .usp => SEG6_LOCAL_FLV_OP_USP | .usd => SEG6_LOCAL_FLV_OP_USD
    | .nextCsid => SEG6_LOCAL_FLV_OP_NEXT_CSID | .other d => d
  toNum_arm := by decide
  toNum_other _ := rfl

section

variable [PacketUtils]

abbrev SEG6_LOCAL_CNT_UNSPEC : UInt16 := 0
abbrev SEG6_LOCAL_CNT_PAD : UInt16 := 1
abbrev SEG6_LOCAL_CNT_PACKETS : UInt16 := 2
abbrev SEG6_LOCAL_CNT_BYTES : UInt16 := 3
abbrev SEG6_LOCAL_CNT_ERRORS : UInt16 := 4

/-- `Seg6LocalCounters`. -/
inductive Seg6LocalCounters where
  | unspec
  | padding (v : ℕ)
  | packets (v : UInt64)
  | bytes (v : UInt64)
  | errors (v : UInt64)
  | other (v : DefaultNla)
deriving DecidableEq

namespace Seg6LocalCounters

def kind : Seg6LocalCounters → UInt16
  | .unspec => SEG6_LOCAL_CNT_UNSPEC
  | .padding _ => SEG6_LOCAL_CNT_PAD
  | .packets _ => SEG6_LOCAL_CNT_PACKETS
  | .bytes _ => SEG6_LOCAL_CNT_BYTES
  | .errors _ => SEG6_LOCAL_CNT_ERRORS
  | .other nla => nla.kind

def valueLen : Seg6LocalCounters → ℕ
  | .unspec => 0
  | .padding v => v
  | .packets _ | .bytes _ | .errors _ => 8
  | .other nla => nla.valueLen

def emitValue : Seg6LocalCounters → Emitter
  | .unspec | .padding _ => .skip
  | .packets v | .bytes v | .errors v => .put 0 (ne.u64 v)
  | .other nla => nla.emitValue

/-- The attribute, as the attribute layer sees it. -/
def nla (a : Seg6LocalCounters) : Nla := ⟨a.valueLen, a.kind, a.emitValue⟩

def parse (buf : NlaBuffer) : Outcome Seg6LocalCounters := do
  let payload ← value buf
  let kind ← PacketUtils.kind buf
  select kind [
    (SEG6_LOCAL_CNT_UNSPEC, .ok .unspec),
    (SEG6_LOCAL_CNT_PAD, .ok (.padding payload.length)),
    (SEG6_LOCAL_CNT_PACKETS,
      .packets <$> (parseU64 payload).context "invalid SEG6_LOCAL_CNT_PACKETS value"),
    (SEG6_LOCAL_CNT_BYTES,
      .bytes <$> (parseU64 payload).context "invalid SEG6_LOCAL_CNT_BYTES value"),
    (SEG6_LOCAL_CNT_ERRORS,
      .errors <$> (parseU64 payload).context "invalid SEG6_LOCAL_CNT_ERRORS value")]
    (.other <$> (defaultNla buf).context "invalid NLA value (unknown type) value")

end Seg6LocalCounters

abbrev SEG6_LOCAL_FLV_OPERATION : UInt16 := 1
abbrev SEG6_LOCAL_FLV_LCBLOCK_BITS : UInt16 := 2
abbrev SEG6_LOCAL_FLV_LCNODE_FN_BITS : UInt16 := 3

/-- `Seg6LocalFlavors`. -/
inductive Seg6LocalFlavors where
  | operation (v : Seg6LocalFlavorOps)
  | lblen (v : UInt8)
  | nflen (v : UInt8)
  | other (v : DefaultNla)
deriving DecidableEq

namespace Seg6LocalFlavors

def kind : Seg6LocalFlavors → UInt16
  | .operation _ => SEG6_LOCAL_FLV_OPERATION
  | .lblen _ => SEG6_LOCAL_FLV_LCBLOCK_BITS
  | .nflen _ => SEG6_LOCAL_FLV_LCNODE_FN_BITS
  | .other nla => nla.kind

def valueLen : Seg6LocalFlavors → ℕ
  | .operation _ => 4
  | .lblen _ => 1
  | .nflen _ => 1
  | .other nla => nla.valueLen

def emitValue : Seg6LocalFlavors → Emitter
  | .operation v => .put 0 (ne.u32 (Seg6LocalFlavorOps.codec.toNum v))
  | .lblen v => .put 0 [v]
  | .nflen v => .put 0 [v]
  | .other nla => nla.emitValue

/-- The attribute, as the attribute layer sees it. -/
def nla (a : Seg6LocalFlavors) : Nla := ⟨a.valueLen, a.kind, a.emitValue⟩

def parse (buf : NlaBuffer) : Outcome Seg6LocalFlavors := do
  let payload ← value buf
  let kind ← PacketUtils.kind buf
  select kind [
    (SEG6_LOCAL_FLV_OPERATION,
      (.operation ∘ Seg6LocalFlavorOps.codec.ofNum) <$>
        (parseU32 payload).context "invalid SEG6_LOCAL_FLV_OPERATION value"),
    (SEG6_LOCAL_FLV_LCBLOCK_BITS,
      .lblen <$> (parseU8 payload).context "invalid SEG6_LOCAL_FLV_LCBLOCK_BITS value"),
    (SEG6_LOCAL_FLV_LCNODE_FN_BITS,
      .nflen <$> (parseU8 payload).context "invalid SEG6_LOCAL_FLV_LCNODE_FN_BITS value")]
    (.other <$> (defaultNla buf).context "invalid NLA value (unknown type) value")

end Seg6LocalFlavors

abbrev SEG6_LOCAL_ACTION : UInt16 := 1
abbrev SEG6_LOCAL_SRH : UInt16 := 2
abbrev SEG6_LOCAL_TABLE : UInt16 := 3
abbrev SEG6_LOCAL_NH4 : UInt16 := 4
abbrev SEG6_LOCAL_NH6 : UInt16 := 5
abbrev SEG6_LOCAL_IIF : UInt16 := 6
abbrev SEG6_LOCAL_OIF : UInt16 := 7
abbrev SEG6_LOCAL_VRFTABLE : UInt16 := 9
abbrev SEG6_LOCAL_COUNTERS : UInt16 := 10
abbrev SEG6_LOCAL_FLAVORS : UInt16 := 11

/-- The attributes of a local segment routing action. -/
inductive RouteSeg6LocalIpTunnel where
  | action (v : Seg6LocalAction)
  | srh (v : Ipv6SrHdr)
  | table (v : UInt32)
  | nh4 (v : Ipv4Addr)
  | nh6 (v : Ipv6Addr)
  | iif (v : UInt32)
  | oif (v : UInt32)
  | vrfTable (v : UInt32)
  | counters (v : List Seg6LocalCounters)
  | flavors (v : List Seg6LocalFlavors)
  | other (v : DefaultNla)
deriving DecidableEq

namespace RouteSeg6LocalIpTunnel

def kind : RouteSeg6LocalIpTunnel → UInt16
  | .srh _ => SEG6_LOCAL_SRH
  | .action _ => SEG6_LOCAL_ACTION
  | .table _ => SEG6_LOCAL_TABLE
  | .nh4 _ => SEG6_LOCAL_NH4
  | .nh6 _ => SEG6_LOCAL_NH6
  | .iif _ => SEG6_LOCAL_IIF
  | .oif _ => SEG6_LOCAL_OIF
  | .vrfTable _ => SEG6_LOCAL_VRFTABLE
  | .counters _ => SEG6_LOCAL_COUNTERS ||| NLA_F_NESTED
  | .flavors _ => SEG6_LOCAL_FLAVORS ||| NLA_F_NESTED
  | .other attr => attr.kind

def valueLen : RouteSeg6LocalIpTunnel → ℕ
  | .srh v => v.bufferLen
  | .action _ => 4
  | .table _ => 4
  | .nh4 _ => 4
  | .nh6 _ => 16
  | .iif _ => 4
  | .oif _ => 4
  | .vrfTable _ => 4
  | .counters nlas => nlasLen (nlas.map Seg6LocalCounters.nla)
  | .flavors nlas => nlasLen (nlas.map Seg6LocalFlavors.nla)
  | .other attr => attr.valueLen

def emitValue : RouteSeg6LocalIpTunnel → Emitter
  | .srh v => v.emit
  | .action v => .put 0 (ne.u32 (Seg6LocalAction.codec.toNum v))
  | .table v => .put 0 (ne.u32 v)
  | .nh4 v => .put 0 v.val
  | .nh6 v => .put 0 v.val
  | .iif v => .put 0 (ne.u32 v)
  | .oif v => .put 0 (ne.u32 v)
  | .vrfTable v => .put 0 (ne.u32 v)
  | .counters nlas => emitNlas (nlas.map Seg6LocalCounters.nla)
  | .flavors nlas => emitNlas (nlas.map Seg6LocalFlavors.nla)
  | .other attr => attr.emitValue

/-- The attribute, as the attribute layer sees it. -/
def nla (a : RouteSeg6LocalIpTunnel) : Nla := ⟨a.valueLen, a.kind, a.emitValue⟩

def parse (buf : NlaBuffer) : Outcome RouteSeg6LocalIpTunnel := do
  let payload ← value buf
  let kind ← PacketUtils.kind buf
  select kind [
    (SEG6_LOCAL_SRH,
      .srh <$>
        (Ipv6SrHdr.parse payload).context ("invalid SEG6_LOCAL_SRH value " ++ debug payload)),
    (SEG6_LOCAL_ACTION,
      (.action ∘ Seg6LocalAction.codec.ofNum) <$>
        (parseU32 payload).context "invalid SEG6_LOCAL_ACTION value"),
    (SEG6_LOCAL_TABLE, .table <$> (parseU32 payload).context "invalid SEG6_LOCAL_TABLE value"),
    (SEG6_LOCAL_NH4,
      .nh4 <$> (parseIpv4Addr payload).context ("invalid SEG6_LOCAL_NH4 value " ++ debug payload)),
    (SEG6_LOCAL_NH6,
      .nh6 <$> (parseIpv6Addr payload).context ("invalid SEG6_LOCAL_NH6 value " ++ debug payload)),
    (SEG6_LOCAL_IIF, .iif <$> (parseU32 payload).context "invalid SEG6_LOCAL_IIF value"),
    (SEG6_LOCAL_OIF, .oif <$> (parseU32 payload).context "invalid SEG6_LOCAL_OIF value"),
    (SEG6_LOCAL_VRFTABLE,
      .vrfTable <$> (parseU32 payload).context "invalid SEG6_LOCAL_VRFTABLE value"),
    (SEG6_LOCAL_COUNTERS,
      .counters <$>
        parseNlas "failed to parse SEG6_LOCAL_COUNTERS"
          "failed to parse SEG6_LOCAL_COUNTERS" Seg6LocalCounters.parse payload),
    (SEG6_LOCAL_FLAVORS,
      .flavors <$>
        parseNlas "failed to parse SEG6_LOCAL_FLAVORS"
          "failed to parse SEG6_LOCAL_FLAVORS" Seg6LocalFlavors.parse payload)]
    (.other <$> (defaultNla buf).context "invalid NLA value (unknown type) value")

end RouteSeg6LocalIpTunnel

end

/-! ## All encapsulations -/

abbrev LWTUNNEL_ENCAP_NONE : UInt16 := 0
abbrev LWTUNNEL_ENCAP_MPLS : UInt16 := 1
abbrev LWTUNNEL_ENCAP_IP : UInt16 := 2
abbrev LWTUNNEL_ENCAP_ILA : UInt16 := 3
abbrev LWTUNNEL_ENCAP_IP6 : UInt16 := 4
abbrev LWTUNNEL_ENCAP_SEG6 : UInt16 := 5
abbrev LWTUNNEL_ENCAP_BPF : UInt16 := 6
abbrev LWTUNNEL_ENCAP_SEG6_LOCAL : UInt16 := 7
abbrev LWTUNNEL_ENCAP_RPL : UInt16 := 8
abbrev LWTUNNEL_ENCAP_IOAM6 : UInt16 := 9
abbrev LWTUNNEL_ENCAP_XFRM : UInt16 := 10

/-- What `RTA_ENCAP` holds. -/
inductive RouteLwEnCapType where
  | none | mpls | ip | ila | ip6 | seg6 | bpf | seg6Local | rpl | ioam6 | xfrm
  | other (d : UInt16)
deriving DecidableEq

/-- The numbers of `RouteLwEnCapType`. -/
def RouteLwEnCapType.codec : EnumCodec UInt16 RouteLwEnCapType where
  arms := [(LWTUNNEL_ENCAP_NONE, .none), (LWTUNNEL_ENCAP_MPLS, .mpls), (LWTUNNEL_ENCAP_IP, .ip),
    (LWTUNNEL_ENCAP_ILA, .ila), (LWTUNNEL_ENCAP_IP6, .ip6), (LWTUNNEL_ENCAP_SEG6, .seg6),
    (LWTUNNEL_ENCAP_BPF, .bpf), (LWTUNNEL_ENCAP_SEG6_LOCAL, .seg6Local),
    (LWTUNNEL_ENCAP_RPL, .rpl), (LWTUNNEL_ENCAP_IOAM6, .ioam6), (LWTUNNEL_ENCAP_XFRM, .xfrm)]
  other := .other
  toNum
    | .none => LWTUNNEL_ENCAP_NONE | .mpls => LWTUNNEL_ENCAP_MPLS | .ip => LWTUNNEL_ENCAP_IP
    | .ila => LWTUNNEL_ENCAP_ILA | .ip6 => LWTUNNEL_ENCAP_IP6 | .seg6 => LWTUNNEL_ENCAP_SEG6
    | .bpf => LWTUNNEL_ENCAP_BPF | .seg6Local => LWTUNNEL_ENCAP_SEG6_LOCAL
    | .rpl => LWTUNNEL_ENCAP_RPL | .ioam6 => LWTUNNEL_ENCAP_IOAM6 | .xfrm => LWTUNNEL_ENCAP_XFRM
    | .other d => d
  toNum_arm := by decide
  toNum_other _ := rfl

namespace RouteLwEnCapType

/-- The name the error texts use. -/
def display : RouteLwEnCapType → String
  | .none => "none" | .mpls => "mpls" | .ip => "ip" | .ila => "ila" | .ip6 => "ip6"
  | .seg6 => "seg6" | .bpf => "bpf" | .seg6Local => "seg6_local" | .rpl => "rpl"
  | .ioam6 => "ioam6" | .xfrm => "xfrm" | .other d => "other(" ++ toString d ++ ")"

abbrev bufferLen : ℕ := 2

def emit [Host] (v : RouteLwEnCapType) : Emitter := .copy (ne.u16 (codec.toNum v))

end RouteLwEnCapType

/-- `RouteLwTunnelEncap`. -/
inductive RouteLwTunnelEncap where
  | mpls (v : RouteMplsIpTunnel)
  | seg6 (v : RouteSeg6IpTunnel)
  | seg6Local (v : RouteSeg6LocalIpTunnel)
  | other (v : DefaultNla)
deriving DecidableEq

namespace RouteLwTunnelEncap

variable [PacketUtils]

def valueLen : RouteLwTunnelEncap → ℕ
  | .mpls v => v.valueLen
  | .seg6 v => v.valueLen
  | .seg6Local v => v.valueLen
  | .other v => v.valueLen

def kind : RouteLwTunnelEncap → UInt16
  | .mpls v => v.kind
  | .seg6 v => v.kind
  | .seg6Local v => v.kind
  | .other v => v.kind

def emitValue : RouteLwTunnelEncap → Emitter
  | .mpls v => v.emitValue
  | .seg6 v => v.emitValue
  | .seg6Local v => v.emitValue
  | .other v => v.emitValue

/-- The attribute, as the attribute layer sees it. -/
def nla (a : RouteLwTunnelEncap) : Nla := ⟨a.valueLen, a.kind, a.emitValue⟩

def parseWithParam (kind : RouteLwEnCapType) (buf : NlaBuffer) : Outcome RouteLwTunnelEncap :=
  match kind with
  | .mpls => .mpls <$> RouteMplsIpTunnel.parse buf
  | .seg6 => .seg6 <$> RouteSeg6IpTunnel.parse buf
  | .seg6Local => .seg6Local <$> RouteSeg6LocalIpTunnel.parse buf
  | _ => .other <$> defaultNla buf

/-- `VecRouteLwTunnelEncap`. -/
def parseVec (kind : RouteLwEnCapType) (buf : NlaBuffer) : Outcome (List RouteLwTunnelEncap) := do
  parseNlas ("Invalid RTA_ENCAP for kind: " ++ kind.display)
    ("Failed to parse RTA_ENCAP for kind: " ++ kind.display) (parseWithParam kind) (← value buf)

end RouteLwTunnelEncap

end NetlinkRoute
