import NetlinkRoute.Address
import NetlinkRoute.Common.Reference
import NetlinkRoute.Route.RoundTrip
/-!
# Rules

The rules that choose a routing table. A realm is read before its length
is looked at, so decoding panics exactly when it gets to one of less than
four bytes (`RuleMessage.decode_eq_panic_iff`); names are written without
their terminator, which the zeroed buffer gives. What was decoded is
written back to the same message (`RuleMessage.decode_stable`), but a rule
that was built is not where the number of its IP protocol is larger than
the byte it is written to (`RuleMessage.comesBack_iff_fitsByte`).

With addresses and prefixes, rules are the configuration that is tied to
an interface or its addresses. `configuration_returns_iff` and
`configuration_stable` are about the three.
-/

namespace NetlinkRoute

open PacketUtils Emitter

/-! ## The model -/

abbrev IPPROTO_HOPOPTS : Int32 := 0
abbrev IPPROTO_ICMP : Int32 := 1
abbrev IPPROTO_IGMP : Int32 := 2
abbrev IPPROTO_IPIP : Int32 := 4
abbrev IPPROTO_TCP : Int32 := 6
abbrev IPPROTO_EGP : Int32 := 8
abbrev IPPROTO_PUP : Int32 := 12
abbrev IPPROTO_UDP : Int32 := 17
abbrev IPPROTO_IDP : Int32 := 22
abbrev IPPROTO_TP : Int32 := 29
abbrev IPPROTO_DCCP : Int32 := 33
abbrev IPPROTO_IPV6 : Int32 := 41
abbrev IPPROTO_RSVP : Int32 := 46
abbrev IPPROTO_GRE : Int32 := 47
abbrev IPPROTO_ESP : Int32 := 50
abbrev IPPROTO_AH : Int32 := 51
abbrev IPPROTO_MTP : Int32 := 92
abbrev IPPROTO_BEETPH : Int32 := 94
abbrev IPPROTO_ENCAP : Int32 := 98
abbrev IPPROTO_PIM : Int32 := 103
abbrev IPPROTO_COMP : Int32 := 108
abbrev IPPROTO_L2TP : Int32 := 115
abbrev IPPROTO_SCTP : Int32 := 132
abbrev IPPROTO_UDPLITE : Int32 := 136
abbrev IPPROTO_MPLS : Int32 := 137
abbrev IPPROTO_ETHERNET : Int32 := 143
abbrev IPPROTO_RAW : Int32 := 255
abbrev IPPROTO_MPTCP : Int32 := 262

/-- `IpProtocol`. -/
inductive IpProtocol where
  | hopopts | icmp | igmp | ipip | tcp | egp | pup | udp | idp | tp | dccp | ipv6 | rsvp | gre
  | esp | ah | mtp | beetph | encap | pim | comp | l2tp | sctp | udplite | mpls | ethernet | raw
  | mptcp | other (d : Int32)
deriving DecidableEq

/-- The numbers of `IpProtocol`. -/
def IpProtocol.codec : EnumCodec Int32 IpProtocol where
  arms := [(IPPROTO_HOPOPTS, .hopopts), (IPPROTO_ICMP, .icmp), (IPPROTO_IGMP, .igmp),
    (IPPROTO_IPIP, .ipip), (IPPROTO_TCP, .tcp), (IPPROTO_EGP, .egp), (IPPROTO_PUP, .pup),
    (IPPROTO_UDP, .udp), (IPPROTO_IDP, .idp), (IPPROTO_TP, .tp), (IPPROTO_DCCP, .dccp),
    (IPPROTO_IPV6, .ipv6), (IPPROTO_RSVP, .rsvp), (IPPROTO_GRE, .gre), (IPPROTO_ESP, .esp),
    (IPPROTO_AH, .ah), (IPPROTO_MTP, .mtp), (IPPROTO_BEETPH, .beetph), (IPPROTO_ENCAP, .encap),
    (IPPROTO_PIM, .pim), (IPPROTO_COMP, .comp), (IPPROTO_L2TP, .l2tp), (IPPROTO_SCTP, .sctp),
    (IPPROTO_UDPLITE, .udplite), (IPPROTO_MPLS, .mpls), (IPPROTO_ETHERNET, .ethernet),
    (IPPROTO_RAW, .raw), (IPPROTO_MPTCP, .mptcp)]
  other := .other
  toNum
    | .hopopts => IPPROTO_HOPOPTS | .icmp => IPPROTO_ICMP | .igmp => IPPROTO_IGMP
    | .ipip => IPPROTO_IPIP | .tcp => IPPROTO_TCP | .egp => IPPROTO_EGP | .pup => IPPROTO_PUP
    | .udp => IPPROTO_UDP | .idp => IPPROTO_IDP | .tp => IPPROTO_TP | .dccp => IPPROTO_DCCP
    | .ipv6 => IPPROTO_IPV6 | .rsvp => IPPROTO_RSVP | .gre => IPPROTO_GRE | .esp => IPPROTO_ESP
    | .ah => IPPROTO_AH | .mtp => IPPROTO_MTP | .beetph => IPPROTO_BEETPH
    | .encap => IPPROTO_ENCAP | .pim => IPPROTO_PIM | .comp => IPPROTO_COMP
    | .l2tp => IPPROTO_L2TP | .sctp => IPPROTO_SCTP | .udplite => IPPROTO_UDPLITE
    | .mpls => IPPROTO_MPLS | .ethernet => IPPROTO_ETHERNET | .raw => IPPROTO_RAW
    | .mptcp => IPPROTO_MPTCP | .other d => d
  toNum_arm := by decide
  toNum_other _ := rfl

/-- The protocol of a byte, widened to the `i32` that the numbers are. -/
def IpProtocol.ofU8 (d : UInt8) : IpProtocol := IpProtocol.codec.ofNum d.toUInt32.toInt32

/-- The low byte of a protocol's number. -/
def IpProtocol.toU8 (v : IpProtocol) : UInt8 := (IpProtocol.codec.toNum v).toUInt32.toUInt8

abbrev FR_ACT_UNSPEC : UInt8 := 0
abbrev FR_ACT_TO_TBL : UInt8 := 1
abbrev FR_ACT_GOTO : UInt8 := 2
abbrev FR_ACT_NOP : UInt8 := 3
abbrev FR_ACT_BLACKHOLE : UInt8 := 6
abbrev FR_ACT_UNREACHABLE : UInt8 := 7
abbrev FR_ACT_PROHIBIT : UInt8 := 8

/-- `RuleAction`. -/
inductive RuleAction where
  | unspec | toTable | goto | nop | blackhole | unreachable | prohibit | other (d : UInt8)
deriving DecidableEq

/-- The numbers of `RuleAction`. -/
def RuleAction.codec : EnumCodec UInt8 RuleAction where
  arms := [(FR_ACT_UNSPEC, .unspec), (FR_ACT_TO_TBL, .toTable), (FR_ACT_GOTO, .goto),
    (FR_ACT_NOP, .nop), (FR_ACT_BLACKHOLE, .blackhole), (FR_ACT_UNREACHABLE, .unreachable),
    (FR_ACT_PROHIBIT, .prohibit)]
  other := .other
  toNum
    | .unspec => FR_ACT_UNSPEC | .toTable => FR_ACT_TO_TBL | .goto => FR_ACT_GOTO
    | .nop => FR_ACT_NOP | .blackhole => FR_ACT_BLACKHOLE | .unreachable => FR_ACT_UNREACHABLE
    | .prohibit => FR_ACT_PROHIBIT | .other d => d
  toNum_arm := by decide
  toNum_other _ := rfl

/-- `RulePortRange`. -/
structure RulePortRange where
  start : UInt16
  end_ : UInt16
deriving DecidableEq

/-- The two ports of a range. -/
def RulePortRange.codec [Host] : StructCodec RulePortRange where
  len := 4
  parse buf := do
    return { start := ← getU16 buf 0, end_ := ← getU16 buf 2 }
  layout v := [(0, ne.u16 v.start), (2, ne.u16 v.end_)]
  tiles v := by simp [Tiles]
  length_layout v := by simp
  parse_layout v rest := by simp [getU16_append]
  parse_of_le b hb := by
    simp (disch := exact fits_of_le hb rfl) only [getU16_of_le, Outcome.ok_bind, Outcome.pure_eq]
    exact ⟨_, rfl⟩

/-- `RuleUidRange`. -/
structure RuleUidRange where
  start : UInt32
  end_ : UInt32
deriving DecidableEq

/-- The two ids of a range. -/
def RuleUidRange.codec [Host] : StructCodec RuleUidRange where
  len := 8
  parse buf := do
    return { start := ← getU32 buf 0, end_ := ← getU32 buf 4 }
  layout v := [(0, ne.u32 v.start), (4, ne.u32 v.end_)]
  tiles v := by simp [Tiles]
  length_layout v := by simp
  parse_layout v rest := by simp [getU32_append]
  parse_of_le b hb := by
    simp (disch := exact fits_of_le hb rfl) only [getU32_of_le, Outcome.ok_bind, Outcome.pure_eq]
    exact ⟨_, rfl⟩

/-- A range is read from a buffer of its size. Both kinds of range have
the text of the first. -/
def StructCodec.parseRange {α : Type} (s : StructCodec α) (buf : Bytes) : Outcome α :=
  if buf.length = s.len then s.parse buf
  else .fail ("Invalid rule port range data, expecting " ++ toString s.len ++
    " u8 array, but got " ++ debug buf)

def RulePortRange.parse [Host] : Bytes → Outcome RulePortRange := RulePortRange.codec.parseRange

def RuleUidRange.parse [Host] : Bytes → Outcome RuleUidRange := RuleUidRange.codec.parseRange

/-- `RuleHeader`. The flags are a bit set that keeps unknown bits. -/
structure RuleHeader where
  family : AddressFamily
  dstLen : UInt8
  srcLen : UInt8
  tos : UInt8
  table : UInt8
  action : RuleAction
  flags : UInt32
deriving DecidableEq

/-- `RuleMessageBuffer`. The two reserved bytes are not written. -/
def RuleHeader.codec [Host] : HeaderCodec RuleHeader where
  len := 12
  parse buf := do
    return {
      family := AddressFamily.codec.ofNum (← getU8 buf 0)
      dstLen := ← getU8 buf 1
      srcLen := ← getU8 buf 2
      tos := ← getU8 buf 3
      table := ← getU8 buf 4
      action := RuleAction.codec.ofNum (← getU8 buf 7)
      flags := ← getU32 buf 8 }
  layout h := [
    (0, [AddressFamily.codec.toNum h.family]), (1, [h.dstLen]), (2, [h.srcLen]), (3, [h.tos]),
    (4, [h.table]), (7, [RuleAction.codec.toNum h.action]), (8, ne.u32 h.flags)]
  WellFormed h := AddressFamily.codec.Canonical h.family ∧ RuleAction.codec.Canonical h.action
  ascending h := by simp [Ascending]
  parse_layout h rest hw := by
    obtain ⟨h1, h2⟩ := hw
    simp [gapped, zeros, List.replicate, h1.ofNum_toNum, h2.ofNum_toNum]
  parse_of_le b hb := by
    simp (disch := exact fits_of_le hb rfl) only [getU8_of_le, getU32_of_le, Outcome.ok_bind,
      Outcome.pure_eq]
    exact ⟨_, rfl, by simp⟩

abbrev FRA_DST : UInt16 := 1
abbrev FRA_SRC : UInt16 := 2
abbrev FRA_IIFNAME : UInt16 := 3
abbrev FRA_GOTO : UInt16 := 4
abbrev FRA_PRIORITY : UInt16 := 6
abbrev FRA_FWMARK : UInt16 := 10
abbrev FRA_FLOW : UInt16 := 11
abbrev FRA_TUN_ID : UInt16 := 12
abbrev FRA_SUPPRESS_IFGROUP : UInt16 := 13
abbrev FRA_SUPPRESS_PREFIXLEN : UInt16 := 14
abbrev FRA_TABLE : UInt16 := 15
abbrev FRA_FWMASK : UInt16 := 16
abbrev FRA_OIFNAME : UInt16 := 17
abbrev FRA_L3MDEV : UInt16 := 19
abbrev FRA_UID_RANGE : UInt16 := 20
abbrev FRA_PROTOCOL : UInt16 := 21
abbrev FRA_IP_PROTO : UInt16 := 22
abbrev FRA_SPORT_RANGE : UInt16 := 23
abbrev FRA_DPORT_RANGE : UInt16 := 24

/-- `RuleAttribute`. -/
inductive RuleAttribute where
  | destination (v : IpAddr)
  | source (v : IpAddr)
  | iifname (v : String)
  | goto (v : UInt32)
  | priority (v : UInt32)
  | fwMark (v : UInt32)
  | fwMask (v : UInt32)
  | realm (v : RouteRealm)
  | tunId (v : UInt32)
  | suppressIfGroup (v : UInt32)
  | suppressPrefixLen (v : UInt32)
  | table (v : UInt32)
  | oifname (v : String)
  | l3MDev (v : Bool)
  | uidRange (v : RuleUidRange)
  | protocol (v : RouteProtocol)
  | ipProtocol (v : IpProtocol)
  | sourcePortRange (v : RulePortRange)
  | destinationPortRange (v : RulePortRange)
  | other (v : DefaultNla)
deriving DecidableEq

section

variable [PacketUtils]

namespace RuleAttribute

def kind : RuleAttribute → UInt16
  | .destination _ => FRA_DST
  | .source _ => FRA_SRC
  | .iifname _ => FRA_IIFNAME
  | .goto _ => FRA_GOTO
  | .priority _ => FRA_PRIORITY
  | .fwMark _ => FRA_FWMARK
  | .fwMask _ => FRA_FWMASK
  | .realm _ => FRA_FLOW
  | .tunId _ => FRA_TUN_ID
  | .suppressIfGroup _ => FRA_SUPPRESS_IFGROUP
  | .suppressPrefixLen _ => FRA_SUPPRESS_PREFIXLEN
  | .table _ => FRA_TABLE
  | .oifname _ => FRA_OIFNAME
  | .l3MDev _ => FRA_L3MDEV
  | .uidRange _ => FRA_UID_RANGE
  | .protocol _ => FRA_PROTOCOL
  | .ipProtocol _ => FRA_IP_PROTO
  | .sourcePortRange _ => FRA_SPORT_RANGE
  | .destinationPortRange _ => FRA_DPORT_RANGE
  | .other attr => attr.kind

def valueLen : RuleAttribute → ℕ
  | .destination ip | .source ip => ipAddrLen ip
  | .uidRange _ => RuleUidRange.codec.len
  | .sourcePortRange _ | .destinationPortRange _ => RulePortRange.codec.len
  | .iifname s | .oifname s => (utf8 s).length + 1
  | .priority _ | .fwMark _ | .fwMask _ | .tunId _ | .goto _ | .suppressIfGroup _
  | .suppressPrefixLen _ | .table _ => 4
  | .realm _ => RULE_REALM_LEN
  | .l3MDev _ | .protocol _ | .ipProtocol _ => 1
  | .other attr => attr.valueLen

def emitValue : RuleAttribute → Emitter
  | .destination ip | .source ip => emitIpToBuffer ip
  | .sourcePortRange v | .destinationPortRange v => RulePortRange.codec.emit v
  | .uidRange v => RuleUidRange.codec.emit v
  | .iifname s | .oifname s => .put 0 (utf8 s)
  | .realm v => v.emit
  | .priority value | .fwMark value | .fwMask value | .tunId value | .goto value
  | .suppressIfGroup value | .suppressPrefixLen value | .table value => .put 0 (ne.u32 value)
  | .l3MDev value => .put 0 [value.toUInt8]
  | .ipProtocol value => .put 0 [value.toU8]
  | .protocol value => .put 0 [RouteProtocol.codec.toNum value]
  | .other attr => attr.emitValue

/-- The attribute, as the attribute layer sees it. -/
def nla (a : RuleAttribute) : Nla := ⟨a.valueLen, a.kind, a.emitValue⟩

def parse (buf : NlaBuffer) : Outcome RuleAttribute := do
  let payload ← value buf
  let kind ← PacketUtils.kind buf
  select kind [
    (FRA_DST,
      .destination <$> (parseIpAddr payload).context ("Invalid FRA_DST value " ++ debug payload)),
    (FRA_SRC,
      .source <$> (parseIpAddr payload).context ("Invalid FRA_SRC value " ++ debug payload)),
    (FRA_IIFNAME, .iifname <$> (parseString payload).context "invalid FRA_IIFNAME value"),
    (FRA_GOTO, .goto <$> (parseU32 payload).context "invalid FRA_GOTO value"),
    (FRA_PRIORITY, .priority <$> (parseU32 payload).context "invalid FRA_PRIORITY value"),
    (FRA_FWMARK, .fwMark <$> (parseU32 payload).context "invalid FRA_FWMARK value"),
    (FRA_FLOW, .realm <$> (RouteRealm.parse payload).context "invalid FRA_FLOW value"),
    (FRA_TUN_ID, .tunId <$> (parseU32 payload).context "invalid FRA_TUN_ID value"),
    (FRA_SUPPRESS_IFGROUP,
      .suppressIfGroup <$> (parseU32 payload).context "invalid FRA_SUPPRESS_IFGROUP value"),
    (FRA_SUPPRESS_PREFIXLEN,
      .suppressPrefixLen <$> (parseU32 payload).context "invalid FRA_SUPPRESS_PREFIXLEN value"),
    (FRA_TABLE, .table <$> (parseU32 payload).context "invalid FRA_TABLE value"),
    (FRA_FWMASK, .fwMask <$> (parseU32 payload).context "invalid FRA_FWMASK value"),
    (FRA_OIFNAME, .oifname <$> (parseString payload).context "invalid FRA_OIFNAME value"),
    (FRA_L3MDEV,
      (fun v => .l3MDev (decide (v > 0))) <$>
        (parseU8 payload).context "invalid FRA_L3MDEV value"),
    (FRA_UID_RANGE,
      .uidRange <$> (RuleUidRange.parse payload).context "invalid FRA_UID_RANGE value"),
    (FRA_PROTOCOL,
      (.protocol ∘ RouteProtocol.codec.ofNum) <$>
        (parseU8 payload).context "invalid FRA_PROTOCOL value"),
    (FRA_IP_PROTO,
      (.ipProtocol ∘ IpProtocol.ofU8) <$>
        (parseU8 payload).context "invalid FRA_IP_PROTO value"),
    (FRA_SPORT_RANGE,
      .sourcePortRange <$> (RulePortRange.parse payload).context "invalid FRA_SPORT_RANGE value"),
    (FRA_DPORT_RANGE,
      .destinationPortRange <$>
        (RulePortRange.parse payload).context "invalid FRA_DPORT_RANGE value")]
    (.other <$> (defaultNla buf).context "invalid NLA (unknown kind)")

end RuleAttribute

/-- `RuleMessage`. -/
abbrev RuleMessage := Message RuleHeader RuleAttribute

/-- How a rule message is decoded and written. -/
def RuleMessage.format : MessageFormat RuleHeader RuleAttribute where
  buffer := "RuleMessageBuffer"
  header := RuleHeader.codec
  nla := RuleAttribute.nla
  parseAttributes _ := parseEach RuleAttribute.parse
  headerErr := some "failed to parse link message header"
  attributesErr := some "failed to parse link message NLAs"

/-! ## Values -/

section Values

omit [PacketUtils]

/-- A protocol read from a byte is written as that byte. -/
@[simp] theorem IpProtocol.toU8_ofU8 (d : UInt8) : (IpProtocol.ofU8 d).toU8 = d := by
  simp [toU8, ofU8]

/-- The number of a protocol is that of a byte. -/
def IpProtocol.FitsByte (v : IpProtocol) : Prop :=
  0 ≤ IpProtocol.codec.toNum v ∧ IpProtocol.codec.toNum v < 256

instance (v : IpProtocol) : Decidable v.FitsByte := inferInstanceAs (Decidable (_ ∧ _))

/-- A protocol fits its byte exactly below 256. -/
theorem IpProtocol.fitsByte_iff {v : IpProtocol} :
    v.FitsByte ↔ (IpProtocol.codec.toNum v).toUInt32.toNat < 256 := by
  unfold FitsByte
  generalize IpProtocol.codec.toNum v = n
  have hn : n.toInt = if 2 * n.toUInt32.toNat < 2 ^ 32 then (n.toUInt32.toNat : ℤ)
      else n.toUInt32.toNat - (2 ^ 32 : ℕ) := BitVec.toInt_eq_toNat_cond _
  have hlt := n.toUInt32.toNat_lt
  rw [Int32.le_iff_toInt_le, Int32.lt_iff_toInt_lt, hn, show (0 : Int32).toInt = 0 from rfl,
    show (256 : Int32).toInt = 256 from rfl]
  split <;> omega

/-- **A byte names a protocol whose number it holds, and no other.** -/
theorem IpProtocol.ofU8_toU8_iff {v : IpProtocol} (h : IpProtocol.codec.Canonical v) :
    IpProtocol.ofU8 v.toU8 = v ↔ v.FitsByte := by
  rw [fitsByte_iff]
  constructor
  · intro hv
    have hnum := congrArg (fun w => (IpProtocol.codec.toNum w).toUInt32.toNat) hv
    simp only [ofU8, EnumCodec.toNum_ofNum, UInt32.toUInt32_toInt32, UInt8.toNat_toUInt32] at hnum
    rw [← hnum]
    exact v.toU8.toNat_lt
  · intro hlt
    have hword : v.toU8.toUInt32 = (IpProtocol.codec.toNum v).toUInt32 := by
      refine UInt32.toNat_inj.1 ?_
      rw [toU8, UInt8.toNat_toUInt32, UInt32.toNat_toUInt8]
      omega
    rw [ofU8, hword, Int32.toInt32_toUInt32, h.ofNum_toNum]

variable {α : Type} {s : StructCodec α} {v : α} {buf : Bytes}

@[simp] theorem StructCodec.parseRange_bytes : s.parseRange (s.bytes v) = .ok v := by
  simp [parseRange]

@[simp] theorem StructCodec.parseRange_ne_panic : s.parseRange buf ≠ .panic := by
  unfold parseRange
  split
  · next h => exact s.parse_ne_panic (Nat.le_of_eq h.symm)
  · simp

/-- A name and the byte behind it that stays zero. -/
theorem fills_put_utf8 {n : String} :
    Fills (.put 0 (utf8 n)) ((utf8 n).length + 1) (utf8 n ++ [0]) := by
  rw [Fills, put_run (by simp), drop_zeros]
  simp [zeros]

@[simp] theorem parseIpAddr_octets (ip : IpAddr) : parseIpAddr ip.octets = .ok ip := by
  cases ip with
  | v4 a => simp [parseIpAddr, IpAddr.octets, a.property]
  | v6 a => simp [parseIpAddr, IpAddr.octets, a.property]

end Values

/-! ## Attributes -/

namespace RuleAttribute

variable {a : RuleAttribute} {nb : NlaBuffer}

/-- The kinds the decoder names. -/
def kinds : List UInt16 :=
  [FRA_DST, FRA_SRC, FRA_IIFNAME, FRA_GOTO, FRA_PRIORITY, FRA_FWMARK, FRA_FLOW, FRA_TUN_ID,
    FRA_SUPPRESS_IFGROUP, FRA_SUPPRESS_PREFIXLEN, FRA_TABLE, FRA_FWMASK, FRA_OIFNAME, FRA_L3MDEV,
    FRA_UID_RANGE, FRA_PROTOCOL, FRA_IP_PROTO, FRA_SPORT_RANGE, FRA_DPORT_RANGE]

/-- A protocol is the one its byte names, and an unknown attribute is of
none of the kinds the decoder names. -/
def Canonical : RuleAttribute → Prop
  | .protocol v => RouteProtocol.codec.Canonical v
  | .ipProtocol v => IpProtocol.ofU8 v.toU8 = v
  | .other n => n.Unknown kinds
  | _ => True

/-- A canonical attribute of a rule comes back. -/
theorem roundTrips (h : a.Canonical) : RoundTrips parse a.nla a := by
  cases a with
  | destination ip => exact IpAddr.writes_octets.roundTrips_arm FRA_DST rfl rfl (by simp)
  | source ip => exact IpAddr.writes_octets.roundTrips_arm FRA_SRC rfl rfl (by simp)
  | iifname s => exact .of_arm fills_put_utf8 FRA_IIFNAME rfl rfl (by simp)
  | goto v => exact (writes_put (length_u32 _ v)).roundTrips_arm FRA_GOTO rfl rfl (by simp)
  | priority v => exact (writes_put (length_u32 _ v)).roundTrips_arm FRA_PRIORITY rfl rfl (by simp)
  | fwMark v => exact (writes_put (length_u32 _ v)).roundTrips_arm FRA_FWMARK rfl rfl (by simp)
  | fwMask v => exact (writes_put (length_u32 _ v)).roundTrips_arm FRA_FWMASK rfl rfl (by simp)
  | realm v =>
    exact RouteRealm.writes_emit.roundTrips_arm FRA_FLOW rfl rfl (by simp [RouteRealm.parse_u32])
  | tunId v => exact (writes_put (length_u32 _ v)).roundTrips_arm FRA_TUN_ID rfl rfl (by simp)
  | suppressIfGroup v =>
    exact (writes_put (length_u32 _ v)).roundTrips_arm FRA_SUPPRESS_IFGROUP rfl rfl (by simp)
  | suppressPrefixLen v =>
    exact (writes_put (length_u32 _ v)).roundTrips_arm FRA_SUPPRESS_PREFIXLEN rfl rfl (by simp)
  | table v => exact (writes_put (length_u32 _ v)).roundTrips_arm FRA_TABLE rfl rfl (by simp)
  | oifname s => exact .of_arm fills_put_utf8 FRA_OIFNAME rfl rfl (by simp)
  | l3MDev v => exact (writes_put rfl).roundTrips_arm FRA_L3MDEV rfl rfl (by simp)
  | uidRange v =>
    exact RuleUidRange.codec.writes_emit.roundTrips_arm FRA_UID_RANGE rfl rfl
      (by simp [RuleUidRange.parse])
  | protocol v =>
    exact (writes_put rfl).roundTrips_arm FRA_PROTOCOL rfl rfl
      (by simp [EnumCodec.Canonical.ofNum_toNum h])
  | ipProtocol v =>
    have hv : IpProtocol.ofU8 v.toU8 = v := h
    exact (writes_put rfl).roundTrips_arm FRA_IP_PROTO rfl rfl (by simp [hv])
  | sourcePortRange v =>
    exact RulePortRange.codec.writes_emit.roundTrips_arm FRA_SPORT_RANGE rfl rfl
      (by simp [RulePortRange.parse])
  | destinationPortRange v =>
    exact RulePortRange.codec.writes_emit.roundTrips_arm FRA_DPORT_RANGE rfl rfl
      (by simp [RulePortRange.parse])
  | other n => exact .of_default h

/-- Enumerations hold the values that their numbers name, whether or not
there is room for the number, and an unknown attribute is of none of the
kinds the decoder names. -/
def WellFormed : RuleAttribute → Prop
  | .protocol v => RouteProtocol.codec.Canonical v
  | .ipProtocol v => IpProtocol.codec.Canonical v
  | .other n => n.Unknown kinds
  | _ => True

omit [PacketUtils] in
/-- Of the values that are well formed, those come back that have a
protocol which fits. -/
theorem WellFormed.canonical_iff (h : a.WellFormed) :
    a.Canonical ↔ ∀ v, a = .ipProtocol v → v.FitsByte := by
  cases a with
  | ipProtocol v => simpa [Canonical] using IpProtocol.ofU8_toU8_iff h
  | protocol v => simpa [Canonical] using show RouteProtocol.codec.Canonical v from h
  | other n => simpa [Canonical] using show n.Unknown kinds from h
  | _ => simp [Canonical]

/-- The parser gives canonical attributes only. -/
theorem holds_parse (hv : NlaValid nb.buffer) : (parse nb).Holds Canonical :=
  hv.holds_parse (by simp [Canonical]) fun _ hk => hk

/-- It panics on a short realm and nowhere else. -/
theorem parse_eq_panic_iff (hv : NlaValid nb.buffer) : parse nb = .panic ↔
    wireKind nb = FRA_FLOW ∧ (nlaValue nb.buffer).length < 4 := by
  refine (hv.parse_eq_panic_iff (by simp only [List.map]; decide)).trans ?_
  simp only [List.exists_mem_cons_iff]
  simp [RouteRealm.parse_eq_panic_iff, RuleUidRange.parse, RulePortRange.parse]

end RuleAttribute

/-! ## Messages -/

namespace RuleMessage

variable {m : RuleMessage} {b : Bytes}

/-- **Decoding panics exactly when it gets to a realm of less than four
bytes.** -/
theorem decode_eq_panic_iff : format.decode b = .panic ↔
    ∃ nb, NlaReached RuleAttribute.parse (b.drop 12) nb ∧ wireKind nb = FRA_FLOW ∧
      (nlaValue nb.buffer).length < 4 := by
  refine (format.decode_eq_panic_iff_of rfl rfl fun nb => RuleAttribute.parse_eq_panic_iff).trans ?_
  rfl

/-- **What was decoded is written back to the same message.** -/
theorem decode_stable (h : format.decode b = .ok m) (hs : format.Sized m) :
    ∃ out, Fills (format.emit m) (format.bufferLen m) out ∧ format.decode out = .ok m :=
  format.decode_stable_of rfl (fun _ _ a hv hp _ =>
    RuleAttribute.roundTrips (RuleAttribute.holds_parse hv a hp)) h hs

/-- The message comes back: written into a zeroed buffer, it is decoded as
it was. -/
def ComesBack (m : RuleMessage) : Prop :=
  ∃ out, Fills (format.emit m) (format.bufferLen m) out ∧ format.decode out = .ok m

/-- Enumerations hold the values that their numbers name, and unknown
attributes are of none of the kinds the decoder names. -/
def WellFormed (m : RuleMessage) : Prop :=
  RuleHeader.codec.WellFormed m.header ∧ ∀ a ∈ m.attributes, a.WellFormed

/-- **A rule comes back exactly when each of its IP protocols has the
number of a byte.** -/
theorem comesBack_iff_fitsByte (m : RuleMessage) (hw : WellFormed m) (hs : format.Sized m) :
    ComesBack m ↔ ∀ v, .ipProtocol v ∈ m.attributes → v.FitsByte := by
  constructor
  · rintro ⟨out, -, h⟩ v hv
    obtain ⟨nb, hnb, hp⟩ := format.exists_of_mem_decode rfl h hv
    exact (hw.2 _ hv).canonical_iff.1 (RuleAttribute.holds_parse hnb _ hp) v rfl
  · intro h
    refine format.decode_emitted_of rfl hw.1 hs fun a ha => RuleAttribute.roundTrips ?_
    exact (hw.2 a ha).canonical_iff.2 fun v hv => h v (hv ▸ ha)

/-- The reserved bytes of the header stay what they were. -/
theorem not_uniform_emit : ¬ Uniform (format.emit m) (format.bufferLen m) := by
  refine format.not_uniform_emit (i := 5) (by simp [format, RuleHeader.codec]) ?_
  simp [format, RuleHeader.codec]

end RuleMessage

/-! ## Addresses, prefixes and rules -/

/-- The decoder gets to an attribute of this kind with a payload of less
than `n` bytes. -/
def ReachesShort {α : Type} (parse : NlaBuffer → Outcome α) (kind : UInt16) (n : ℕ)
    (payload : Bytes) : Prop :=
  ∃ nb, NlaReached parse payload nb ∧ wireKind nb = kind ∧ (nlaValue nb.buffer).length < n

/-- **Decoding an address, a prefix or a rule comes back, unless it gets
to life times or a realm that is cut short.** -/
theorem configuration_returns_iff (b : Bytes) :
    (AddressMessage.format.decode b ≠ .panic ↔
      ¬ ReachesShort AddressAttribute.parse IFA_CACHEINFO 16 (b.drop 8)) ∧
    (PrefixMessage.format.decode b ≠ .panic ↔
      ¬ ReachesShort PrefixAttribute.parse PREFIX_CACHEINFO 8 (b.drop 12)) ∧
    (RuleMessage.format.decode b ≠ .panic ↔
      ¬ ReachesShort RuleAttribute.parse FRA_FLOW 4 (b.drop 12)) :=
  ⟨not_congr AddressMessage.decode_eq_panic_iff, not_congr PrefixMessage.decode_eq_panic_iff,
    not_congr RuleMessage.decode_eq_panic_iff⟩

/-- **What was decoded as an address, a prefix or a rule is written, and
decoded again to the same message.** -/
theorem configuration_stable (b : Bytes) :
    (∀ m, AddressMessage.format.decode b = .ok m → AddressMessage.format.Sized m →
      ∃ out, (AddressMessage.format.emit m).run (zeros (AddressMessage.format.bufferLen m)) =
        .ok out ∧ AddressMessage.format.decode out = .ok m) ∧
    (∀ m, PrefixMessage.format.decode b = .ok m → PrefixMessage.format.Sized m →
      ∃ out, (PrefixMessage.format.emit m).run (zeros (PrefixMessage.format.bufferLen m)) =
        .ok out ∧ PrefixMessage.format.decode out = .ok m) ∧
    (∀ m, RuleMessage.format.decode b = .ok m → RuleMessage.format.Sized m →
      ∃ out, (RuleMessage.format.emit m).run (zeros (RuleMessage.format.bufferLen m)) =
        .ok out ∧ RuleMessage.format.decode out = .ok m) :=
  ⟨fun _ => AddressMessage.decode_stable, fun _ => PrefixMessage.decode_stable,
    fun _ => RuleMessage.decode_stable⟩

end

section Concrete

attribute [local instance] Reference.little

namespace RuleMessage

/-- A rule with nothing but an IP protocol. -/
def ofProtocol (v : IpProtocol) : RuleMessage :=
  ⟨⟨.inet, 0, 0, 0, 254, .toTable, 0⟩, [.ipProtocol v]⟩

theorem ofProtocol_wellFormed {v : IpProtocol} (h : IpProtocol.codec.Canonical v) :
    WellFormed (ofProtocol v) ∧ format.Sized (ofProtocol v) :=
  ⟨⟨⟨rfl, rfl⟩, List.forall_mem_singleton.2 h⟩,
    List.forall_mem_singleton.2 (Nat.le_of_ble_eq_true rfl)⟩

/-- UDP has a number below 256. -/
theorem udp_comesBack : WellFormed (ofProtocol .udp) ∧ format.Sized (ofProtocol .udp) ∧
    (ComesBack (ofProtocol .udp) ↔ ∀ v, .ipProtocol v ∈ (ofProtocol .udp).attributes →
      v.FitsByte) := by
  obtain ⟨hw, hs⟩ := ofProtocol_wellFormed (v := .udp) rfl
  exact ⟨hw, hs, comesBack_iff_fitsByte _ hw hs⟩

/-- Multipath TCP has not: what is decoded again is a rule for TCP. -/
theorem mptcp_comesBack_tcp : WellFormed (ofProtocol .mptcp) ∧ format.Sized (ofProtocol .mptcp) ∧
    (∃ out, Fills (format.emit (ofProtocol .mptcp)) (format.bufferLen (ofProtocol .mptcp)) out ∧
      format.decode out = .ok (ofProtocol .tcp)) ∧ ¬ ComesBack (ofProtocol .mptcp) := by
  obtain ⟨hw, hs⟩ := ofProtocol_wellFormed (v := .mptcp) rfl
  have hbytes : Fills (format.emit (ofProtocol .mptcp)) (format.bufferLen (ofProtocol .mptcp))
      [2, 0, 0, 0, 254, 0, 0, 1, 0, 0, 0, 0, 5, 0, 22, 0, 6, 0, 0, 0] := rfl
  refine ⟨hw, hs, ⟨_, hbytes, rfl⟩, ?_⟩
  rintro ⟨out, hout, hdec⟩
  cases Outcome.ok.inj (hbytes.symm.trans hout)
  cases hdec

end RuleMessage

/-- Life times of two bytes behind the header of an address and of a
prefix, and a realm of two bytes behind the header of a rule. -/
theorem configuration_panics :
    AddressMessage.format.decode (zeros 8 ++ [6, 0, 6, 0, 1, 2, 0, 0]) = .panic ∧
      PrefixMessage.format.decode (zeros 12 ++ [6, 0, 2, 0, 1, 2, 0, 0]) = .panic ∧
      RuleMessage.format.decode (zeros 12 ++ [6, 0, 11, 0, 1, 2, 0, 0]) = .panic :=
  ⟨rfl, rfl, rfl⟩

/-- A loopback address with its nested flag set, and an attribute that
neither prefixes nor rules have. -/
theorem configuration_stable_loopback :
    (AddressMessage.format.decode (zeros 8 ++ [8, 0, 1, 0x80, 127, 0, 0, 1]) =
        .ok ⟨⟨.unspec, 0, 0, .universe_, 0⟩, [.address (.v4 ⟨[127, 0, 0, 1], rfl⟩)]⟩ ∧
      ∃ out, (AddressMessage.format.emit
          ⟨⟨.unspec, 0, 0, .universe_, 0⟩, [.address (.v4 ⟨[127, 0, 0, 1], rfl⟩)]⟩).run
            (zeros (AddressMessage.format.bufferLen
              ⟨⟨.unspec, 0, 0, .universe_, 0⟩, [.address (.v4 ⟨[127, 0, 0, 1], rfl⟩)]⟩)) = .ok out ∧
        AddressMessage.format.decode out =
          .ok ⟨⟨.unspec, 0, 0, .universe_, 0⟩, [.address (.v4 ⟨[127, 0, 0, 1], rfl⟩)]⟩) ∧
    (PrefixMessage.format.decode (zeros 12 ++ [5, 0, 0x40, 0x80, 1]) =
        .ok ⟨⟨0, 0, 0, 0, 0⟩, [.other ⟨0x8040, [1]⟩]⟩ ∧
      ∃ out, (PrefixMessage.format.emit ⟨⟨0, 0, 0, 0, 0⟩, [.other ⟨0x8040, [1]⟩]⟩).run
          (zeros (PrefixMessage.format.bufferLen ⟨⟨0, 0, 0, 0, 0⟩, [.other ⟨0x8040, [1]⟩]⟩)) =
            .ok out ∧
        PrefixMessage.format.decode out = .ok ⟨⟨0, 0, 0, 0, 0⟩, [.other ⟨0x8040, [1]⟩]⟩) ∧
    (RuleMessage.format.decode (zeros 12 ++ [5, 0, 0x40, 0x80, 1]) =
        .ok ⟨⟨.unspec, 0, 0, 0, 0, .unspec, 0⟩, [.other ⟨0x8040, [1]⟩]⟩ ∧
      ∃ out, (RuleMessage.format.emit
          ⟨⟨.unspec, 0, 0, 0, 0, .unspec, 0⟩, [.other ⟨0x8040, [1]⟩]⟩).run
            (zeros (RuleMessage.format.bufferLen
              ⟨⟨.unspec, 0, 0, 0, 0, .unspec, 0⟩, [.other ⟨0x8040, [1]⟩]⟩)) = .ok out ∧
        RuleMessage.format.decode out =
          .ok ⟨⟨.unspec, 0, 0, 0, 0, .unspec, 0⟩, [.other ⟨0x8040, [1]⟩]⟩) := by
  refine ⟨⟨rfl, ?_⟩, ⟨rfl, ?_⟩, ⟨rfl, ?_⟩⟩
  · refine (configuration_stable (zeros 8 ++ [8, 0, 1, 0x80, 127, 0, 0, 1])).1 _ rfl ?_
    exact List.forall_mem_singleton.2 (by decide)
  · refine (configuration_stable (zeros 12 ++ [5, 0, 0x40, 0x80, 1])).2.1 _ rfl ?_
    exact List.forall_mem_singleton.2 (by decide)
  · refine (configuration_stable (zeros 12 ++ [5, 0, 0x40, 0x80, 1])).2.2 _ rfl ?_
    exact List.forall_mem_singleton.2 (by decide)

end Concrete

end NetlinkRoute
