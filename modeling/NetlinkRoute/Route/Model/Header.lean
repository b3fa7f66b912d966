import NetlinkRoute.Family
import NetlinkRoute.Common.Struct
/-!
# Route — the message header

The fixed header of `RTM_NEWROUTE`, `RTM_DELROUTE` and `RTM_GETROUTE`,
and the enumerations it is made of.
-/

namespace NetlinkRoute

open PacketUtils

abbrev RTPROT_UNSPEC : UInt8 := 0
abbrev RTPROT_REDIRECT : UInt8 := 1
abbrev RTPROT_KERNEL : UInt8 := 2
abbrev RTPROT_BOOT : UInt8 := 3
abbrev RTPROT_STATIC : UInt8 := 4
abbrev RTPROT_GATED : UInt8 := 8
abbrev RTPROT_RA : UInt8 := 9
abbrev RTPROT_MRT : UInt8 := 10
abbrev RTPROT_ZEBRA : UInt8 := 11
abbrev RTPROT_BIRD : UInt8 := 12
abbrev RTPROT_DNROUTED : UInt8 := 13
abbrev RTPROT_XORP : UInt8 := 14
abbrev RTPROT_NTK : UInt8 := 15
abbrev RTPROT_DHCP : UInt8 := 16
abbrev RTPROT_MROUTED : UInt8 := 17
abbrev RTPROT_KEEPALIVED : UInt8 := 18
abbrev RTPROT_BABEL : UInt8 := 42
abbrev RTPROT_BGP : UInt8 := 186
abbrev RTPROT_ISIS : UInt8 := 187
abbrev RTPROT_OSPF : UInt8 := 188
abbrev RTPROT_RIP : UInt8 := 189
abbrev RTPROT_EIGRP : UInt8 := 192

/-- Who installed a route. -/
inductive RouteProtocol where
  | unspec | icmpRedirect | kernel | boot | static | gated | ra | mrt | zebra | bird | dnRouted
  | xorp | ntk | dhcp | mrouted | keepAlived | babel | bgp | isis | ospf | rip | eigrp
  | other (d : UInt8)
deriving DecidableEq

/-- The numbers of `RouteProtocol`. -/
def RouteProtocol.codec : EnumCodec UInt8 RouteProtocol where
  arms := [(RTPROT_UNSPEC, .unspec), (RTPROT_REDIRECT, .icmpRedirect), (RTPROT_KERNEL, .kernel),
    (RTPROT_BOOT, .boot), (RTPROT_STATIC, .static), (RTPROT_GATED, .gated), (RTPROT_RA, .ra),
    (RTPROT_MRT, .mrt), (RTPROT_ZEBRA, .zebra), (RTPROT_BIRD, .bird),
    (RTPROT_DNROUTED, .dnRouted), (RTPROT_XORP, .xorp), (RTPROT_NTK, .ntk), (RTPROT_DHCP, .dhcp),
    (RTPROT_MROUTED, .mrouted), (RTPROT_KEEPALIVED, .keepAlived), (RTPROT_BABEL, .babel),
    (RTPROT_BGP, .bgp), (RTPROT_ISIS, .isis), (RTPROT_OSPF, .ospf), (RTPROT_RIP, .rip),
    (RTPROT_EIGRP, .eigrp)]
  other := .other
  toNum
    | .unspec => RTPROT_UNSPEC | .icmpRedirect => RTPROT_REDIRECT | .kernel => RTPROT_KERNEL
    | .boot => RTPROT_BOOT | .static => RTPROT_STATIC | .gated => RTPROT_GATED | .ra => RTPROT_RA
    | .mrt => RTPROT_MRT | .zebra => RTPROT_ZEBRA | .bird => RTPROT_BIRD
    | .dnRouted => RTPROT_DNROUTED | .xorp => RTPROT_XORP | .ntk => RTPROT_NTK
    | .dhcp => RTPROT_DHCP | .mrouted => RTPROT_MROUTED | .keepAlived => RTPROT_KEEPALIVED
    | .babel => RTPROT_BABEL | .bgp => RTPROT_BGP | .isis => RTPROT_ISIS | .ospf => RTPROT_OSPF
    | .rip => RTPROT_RIP | .eigrp => RTPROT_EIGRP | .other d => d
  toNum_arm := by decide
  toNum_other _ := rfl

/-- `RouteProtocol::parse`: one byte. -/
def RouteProtocol.parse (buf : Bytes) : Outcome RouteProtocol :=
  if buf.length = 1 then RouteProtocol.codec.ofNum <$> index buf 0
  else .fail ("Expecting single u8 for route protocol, but got " ++ debug buf)

/-- The space a protocol takes in an attribute. -/
abbrev RouteProtocol.bufferLen : ℕ := 1

def RouteProtocol.emit (v : RouteProtocol) : Emitter := .put 0 [RouteProtocol.codec.toNum v]

abbrev RT_SCOPE_UNIVERSE : UInt8 := 0
abbrev RT_SCOPE_SITE : UInt8 := 200
abbrev RT_SCOPE_LINK : UInt8 := 253
abbrev RT_SCOPE_HOST : UInt8 := 254
abbrev RT_SCOPE_NOWHERE : UInt8 := 255

/-- How far a destination is. -/
inductive RouteScope where
  | universe_ | site | link | host | noWhere | other (d : UInt8)
deriving DecidableEq

/-- The numbers of `RouteScope`. -/
def RouteScope.codec : EnumCodec UInt8 RouteScope where
  arms := [(RT_SCOPE_UNIVERSE, .universe_), (RT_SCOPE_SITE, .site), (RT_SCOPE_LINK, .link),
    (RT_SCOPE_HOST, .host), (RT_SCOPE_NOWHERE, .noWhere)]
  other := .other
  toNum
    | .universe_ => RT_SCOPE_UNIVERSE | .site => RT_SCOPE_SITE | .link => RT_SCOPE_LINK
    | .host => RT_SCOPE_HOST | .noWhere => RT_SCOPE_NOWHERE | .other d => d
  toNum_arm := by decide
  toNum_other _ := rfl

abbrev RTN_UNSPEC : UInt8 := 0
abbrev RTN_UNICAST : UInt8 := 1
abbrev RTN_LOCAL : UInt8 := 2
abbrev RTN_BROADCAST : UInt8 := 3
abbrev RTN_ANYCAST : UInt8 := 4
abbrev RTN_MULTICAST : UInt8 := 5
abbrev RTN_BLACKHOLE : UInt8 := 6
abbrev RTN_UNREACHABLE : UInt8 := 7
abbrev RTN_PROHIBIT : UInt8 := 8
abbrev RTN_THROW : UInt8 := 9
abbrev RTN_NAT : UInt8 := 10
abbrev RTN_XRESOLVE : UInt8 := 11

/-- What a route does with a packet. -/
inductive RouteType where
  | unspec | unicast | local_ | broadcast | anycast | multicast | blackHole | unreachable
  | prohibit | throw | nat | externalResolve | other (d : UInt8)
deriving DecidableEq

/-- The numbers of `RouteType`. -/
def RouteType.codec : EnumCodec UInt8 RouteType where
  arms := [(RTN_UNSPEC, .unspec), (RTN_UNICAST, .unicast), (RTN_LOCAL, .local_),
    (RTN_BROADCAST, .broadcast), (RTN_ANYCAST, .anycast), (RTN_MULTICAST, .multicast),
    (RTN_BLACKHOLE, .blackHole), (RTN_UNREACHABLE, .unreachable), (RTN_PROHIBIT, .prohibit),
    (RTN_THROW, .throw), (RTN_NAT, .nat), (RTN_XRESOLVE, .externalResolve)]
  other := .other
  toNum
    | .unspec => RTN_UNSPEC | .unicast => RTN_UNICAST | .local_ => RTN_LOCAL
    | .broadcast => RTN_BROADCAST | .anycast => RTN_ANYCAST | .multicast => RTN_MULTICAST
    | .blackHole => RTN_BLACKHOLE | .unreachable => RTN_UNREACHABLE | .prohibit => RTN_PROHIBIT
    | .throw => RTN_THROW | .nat => RTN_NAT | .externalResolve => RTN_XRESOLVE | .other d => d
  toNum_arm := by decide
  toNum_other _ := rfl

/-- `RouteHeader`. The flags are a bit set that keeps unknown bits. -/
structure RouteHeader where
  addressFamily : AddressFamily
  destinationPrefixLength : UInt8
  sourcePrefixLength : UInt8
  tos : UInt8
  table : UInt8
  protocol : RouteProtocol
  scope : RouteScope
  kind : RouteType
  flags : UInt32
deriving DecidableEq

namespace RouteHeader

/-- `ROUTE_HEADER_LEN`. -/
abbrev bufferLen : ℕ := 12

/-- The header of a default message. -/
def default_ : RouteHeader := ⟨.unspec, 0, 0, 0, 0, .unspec, .universe_, .unspec, 0⟩

section

variable [Host]

def parse (buf : Bytes) : Outcome RouteHeader := do
  return {
    addressFamily := AddressFamily.codec.ofNum (← getU8 buf 0)
    destinationPrefixLength := ← getU8 buf 1
    sourcePrefixLength := ← getU8 buf 2
    tos := ← getU8 buf 3
    table := ← getU8 buf 4
    protocol := RouteProtocol.codec.ofNum (← getU8 buf 5)
    scope := RouteScope.codec.ofNum (← getU8 buf 6)
    kind := RouteType.codec.ofNum (← getU8 buf 7)
    flags := ← getU32 buf 8 }

def layout (h : RouteHeader) : List (ℕ × Bytes) := [
  (0, [AddressFamily.codec.toNum h.addressFamily]), (1, [h.destinationPrefixLength]),
  (2, [h.sourcePrefixLength]), (3, [h.tos]), (4, [h.table]),
  (5, [RouteProtocol.codec.toNum h.protocol]), (6, [RouteScope.codec.toNum h.scope]),
  (7, [RouteType.codec.toNum h.kind]), (8, ne.u32 h.flags)]

def emit (h : RouteHeader) : Emitter := .fields h.layout

end

end RouteHeader

end NetlinkRoute
