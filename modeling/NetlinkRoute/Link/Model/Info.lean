import NetlinkRoute.Link.Model.Bridge
import NetlinkRoute.Link.Model.Bond
import NetlinkRoute.Link.Model.Kinds
/-!
# Link — kinds and ports

The parts of `IFLA_LINKINFO` that hold no link message: the name of the
kind of a link and of its port, and what the kind of port keeps.
-/

namespace NetlinkRoute

open PacketUtils Emitter

/-! ## Kinds of links -/

abbrev DUMMY : String := "dummy"
abbrev IFB : String := "ifb"
abbrev BRIDGE : String := "bridge"
abbrev TUN : String := "tun"
abbrev NLMON : String := "nlmon"
abbrev VLAN : String := "vlan"
abbrev VETH : String := "veth"
abbrev VXLAN : String := "vxlan"
abbrev BOND : String := "bond"
abbrev IPVLAN : String := "ipvlan"
abbrev IPVTAP : String := "ipvtap"
abbrev MACVLAN : String := "macvlan"
abbrev MACVTAP : String := "macvtap"
abbrev GRETAP : String := "gretap"
abbrev IP6GRETAP : String := "ip6gretap"
abbrev IPIP : String := "ipip"
abbrev SIT : String := "sit"
abbrev GRE : String := "gre"
abbrev IP6GRE : String := "ip6gre"
abbrev VTI : String := "vti"
abbrev VRF : String := "vrf"
abbrev GTP : String := "gtp"
abbrev IPOIB : String := "ipoib"
abbrev WIREGUARD : String := "wireguard"
abbrev XFRM : String := "xfrm"
abbrev MACSEC : String := "macsec"
abbrev HSR : String := "hsr"

/-- `InfoKind`. -/
inductive InfoKind where
  | dummy | ifb | bridge | tun | nlmon | vlan | veth | vxlan | bond | ipVlan | ipVtap | macVlan
  | macVtap | greTap | greTap6 | ipTun | sitTun | greTun | greTun6 | vti | vrf | gtp | ipoib
  | wireguard | xfrm | macSec | hsr | other (s : String)
deriving DecidableEq

/-- The names of `InfoKind`. -/
def InfoKind.codec : EnumCodec String InfoKind where
  arms := [(DUMMY, .dummy), (IFB, .ifb), (BRIDGE, .bridge), (TUN, .tun), (NLMON, .nlmon),
    (VLAN, .vlan), (VETH, .veth), (VXLAN, .vxlan), (BOND, .bond), (IPVLAN, .ipVlan),
    (IPVTAP, .ipVtap), (MACVLAN, .macVlan), (MACVTAP, .macVtap), (GRETAP, .greTap),
    (IP6GRETAP, .greTap6), (IPIP, .ipTun), (SIT, .sitTun), (GRE, .greTun), (IP6GRE, .greTun6),
    (VTI, .vti), (VRF, .vrf), (GTP, .gtp), (IPOIB, .ipoib), (WIREGUARD, .wireguard),
    (MACSEC, .macSec), (XFRM, .xfrm), (HSR, .hsr)]
  other := .other
  toNum
    | .dummy => DUMMY | .ifb => IFB | .bridge => BRIDGE | .tun => TUN | .nlmon => NLMON
    | .vlan => VLAN | .veth => VETH | .vxlan => VXLAN | .bond => BOND | .ipVlan => IPVLAN
    | .ipVtap => IPVTAP | .macVlan => MACVLAN | .macVtap => MACVTAP | .greTap => GRETAP
    | .greTap6 => IP6GRETAP | .ipTun => IPIP | .sitTun => SIT | .greTun => GRE
    | .greTun6 => IP6GRE | .vti => VTI | .vrf => VRF | .gtp => GTP | .ipoib => IPOIB
    | .wireguard => WIREGUARD | .xfrm => XFRM | .macSec => MACSEC | .hsr => HSR | .other s => s
  toNum_arm := by decide
  toNum_other _ := rfl

/-! ## Kinds of ports -/

/-- `InfoPortKind`. -/
inductive InfoPortKind where
  | bond | bridge | vrf | other (s : String)
deriving DecidableEq

/-- The names of `InfoPortKind`. -/
def InfoPortKind.codec : EnumCodec String InfoPortKind where
  arms := [(BOND, .bond), (BRIDGE, .bridge), (VRF, .vrf)]
  other := .other
  toNum
    | .bond => BOND | .bridge => BRIDGE | .vrf => VRF | .other s => s
  toNum_arm := by decide
  toNum_other _ := rfl

abbrev IFLA_INFO_KIND : UInt16 := 1
abbrev IFLA_INFO_DATA : UInt16 := 2
abbrev IFLA_INFO_XSTATS : UInt16 := 3
abbrev IFLA_INFO_PORT_KIND : UInt16 := 4
abbrev IFLA_INFO_PORT_DATA : UInt16 := 5

/-- `LinkXstats`: bytes of the driver. -/
structure LinkXstats where
  other : Bytes
deriving DecidableEq

section

variable [PacketUtils]

namespace InfoKind

def valueLen (k : InfoKind) : ℕ := (utf8 (codec.toNum k)).length + 1

def emitValue (k : InfoKind) : Emitter := emitStringNul (codec.toNum k)

def parse (buf : NlaBuffer) : Outcome InfoKind := do
  let kind ← PacketUtils.kind buf
  if kind ≠ IFLA_INFO_KIND then
    .fail ("failed to parse IFLA_INFO_KIND: NLA type is " ++ toString kind)
  else do
    codec.ofNum <$> (parseString (← value buf)).context "invalid IFLA_INFO_KIND value"

end InfoKind

namespace InfoPortKind

def valueLen (k : InfoPortKind) : ℕ := (utf8 (codec.toNum k)).length + 1

def emitValue (k : InfoPortKind) : Emitter := emitStringNul (codec.toNum k)

def parse (buf : NlaBuffer) : Outcome InfoPortKind := do
  let kind ← PacketUtils.kind buf
  if kind ≠ IFLA_INFO_PORT_KIND then
    .fail ("failed to parse IFLA_INFO_PORT_KIND: NLA type is " ++ toString kind)
  else do
    codec.ofNum <$> (parseString (← value buf)).context "invalid IFLA_INFO_PORT_KIND value"

end InfoPortKind

/-! ## Data of ports -/

/-- `InfoPortData`. The attributes of a VRF's port are those of a VRF. -/
inductive InfoPortData where
  | bondPort (v : List InfoBondPort)
  | bridgePort (v : List InfoBridgePort)
  | vrfPort (v : List InfoVrf)
  | other (v : Bytes)
deriving DecidableEq

namespace InfoPortData

def valueLen : InfoPortData → ℕ
  | .bondPort nlas => nlasLen (nlas.map InfoBondPort.nla)
  | .bridgePort nlas => nlasLen (nlas.map InfoBridgePort.nla)
  | .vrfPort nlas => nlasLen (nlas.map InfoVrf.nla)
  | .other bytes => bytes.length

def emitValue : InfoPortData → Emitter
  | .bondPort nlas => emitNlas (nlas.map InfoBondPort.nla)
  | .bridgePort nlas => emitNlas (nlas.map InfoBridgePort.nla)
  | .vrfPort nlas => emitNlas (nlas.map InfoVrf.nla)
  | .other bytes => .copy bytes

/-- `InfoPortData::parse_with_param`: the kind of port decides. -/
def parseWithParam (payload : Bytes) (kind : InfoPortKind) : Outcome InfoPortData :=
  Outcome.context (match kind with
    | .bond => .bondPort <$> parseEach InfoBondPort.parse payload
    | .bridge => .bridgePort <$> parseEach InfoBridgePort.parse payload
    | .vrf => .vrfPort <$> parseEach InfoVrf.parse payload
    | .other _ => .ok (.other payload))
    ("failed to parse IFLA_INFO_PORT_DATA (IFLA_INFO_PORT_KIND is '" ++
      InfoPortKind.codec.toNum kind ++ "')")

end InfoPortData

end

end NetlinkRoute
