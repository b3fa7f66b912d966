import NetlinkRoute.Common.Enum
import NetlinkRoute.Common.Nlas
/-!
# Address families and addresses

`AddressFamily` with the numbers Linux gives it, and the address helpers
of `ip.rs`. Two families have two names: `AF_LOCAL` is `AF_UNIX`, and
`AF_ROUTE` is `AF_NETLINK`; the decoder gives the number one of them.
-/

namespace NetlinkRoute

open PacketUtils

abbrev AF_UNSPEC : UInt8 := 0
abbrev AF_UNIX : UInt8 := 1
abbrev AF_LOCAL : UInt8 := 1
abbrev AF_INET : UInt8 := 2
abbrev AF_AX25 : UInt8 := 3
abbrev AF_IPX : UInt8 := 4
abbrev AF_APPLETALK : UInt8 := 5
abbrev AF_NETROM : UInt8 := 6
abbrev AF_BRIDGE : UInt8 := 7
abbrev AF_ATMPVC : UInt8 := 8
abbrev AF_X25 : UInt8 := 9
abbrev AF_INET6 : UInt8 := 10
abbrev AF_ROSE : UInt8 := 11
abbrev AF_DECnet : UInt8 := 12
abbrev AF_NETBEUI : UInt8 := 13
abbrev AF_SECURITY : UInt8 := 14
abbrev AF_KEY : UInt8 := 15
abbrev AF_NETLINK : UInt8 := 16
abbrev AF_ROUTE : UInt8 := 16
abbrev AF_PACKET : UInt8 := 17
abbrev AF_ASH : UInt8 := 18
abbrev AF_ECONET : UInt8 := 19
abbrev AF_ATMSVC : UInt8 := 20
abbrev AF_RDS : UInt8 := 21
abbrev AF_SNA : UInt8 := 22
abbrev AF_IRDA : UInt8 := 23
abbrev AF_PPPOX : UInt8 := 24
abbrev AF_WANPIPE : UInt8 := 25
abbrev AF_LLC : UInt8 := 26
abbrev AF_IB : UInt8 := 27
abbrev AF_MPLS : UInt8 := 28
abbrev AF_CAN : UInt8 := 29
abbrev AF_TIPC : UInt8 := 30
abbrev AF_BLUETOOTH : UInt8 := 31
abbrev AF_IUCV : UInt8 := 32
abbrev AF_RXRPC : UInt8 := 33
abbrev AF_ISDN : UInt8 := 34
abbrev AF_PHONET : UInt8 := 35
abbrev AF_IEEE802154 : UInt8 := 36
abbrev AF_CAIF : UInt8 := 37
abbrev AF_ALG : UInt8 := 38
abbrev AF_NFC : UInt8 := 39
abbrev AF_VSOCK : UInt8 := 40
abbrev AF_KCM : UInt8 := 41
abbrev AF_QIPCRTR : UInt8 := 42
abbrev AF_SMC : UInt8 := 43
abbrev AF_XDP : UInt8 := 44
abbrev AF_MCTP : UInt8 := 45

/-- The address families of Linux. -/
inductive AddressFamily where
  | unspec | local_ | unix | inet | ax25 | ipx | appletalk | netrom | bridge | atmpvc | x25
  | inet6 | rose | decnet | netbeui | security | key | route | netlink | packet | ash | econet
  | atmsvc | rds | sna | irda | pppox | wanpipe | llc | ib | mpls | can | tipc | bluetooth | iucv
  | rxrpc | isdn | phonet | ieee802154 | caif | alg | nfc | vsock | kcm | qipcrtr | smc | xdp
  | mctp | other (d : UInt8)
deriving DecidableEq

/-- The numbers of `AddressFamily`. -/
def AddressFamily.codec : EnumCodec UInt8 AddressFamily where
  arms := [(AF_UNSPEC, .unspec), (AF_UNIX, .unix), (AF_LOCAL, .local_), (AF_INET, .inet),
    (AF_AX25, .ax25), (AF_IPX, .ipx), (AF_APPLETALK, .appletalk), (AF_NETROM, .netrom),
    (AF_BRIDGE, .bridge), (AF_ATMPVC, .atmpvc), (AF_X25, .x25), (AF_INET6, .inet6),
    (AF_ROSE, .rose), (AF_DECnet, .decnet), (AF_NETBEUI, .netbeui), (AF_SECURITY, .security),
    (AF_KEY, .key), (AF_NETLINK, .netlink), (AF_ROUTE, .route), (AF_PACKET, .packet),
    (AF_ASH, .ash), (AF_ECONET, .econet), (AF_ATMSVC, .atmsvc), (AF_RDS, .rds), (AF_SNA, .sna),
    (AF_IRDA, .irda), (AF_PPPOX, .pppox), (AF_WANPIPE, .wanpipe), (AF_LLC, .llc), (AF_IB, .ib),
    (AF_MPLS, .mpls), (AF_CAN, .can), (AF_TIPC, .tipc), (AF_BLUETOOTH, .bluetooth),
    (AF_IUCV, .iucv), (AF_RXRPC, .rxrpc), (AF_ISDN, .isdn), (AF_PHONET, .phonet),
    (AF_IEEE802154, .ieee802154), (AF_CAIF, .caif), (AF_ALG, .alg), (AF_NFC, .nfc),
    (AF_VSOCK, .vsock), (AF_KCM, .kcm), (AF_QIPCRTR, .qipcrtr), (AF_SMC, .smc), (AF_XDP, .xdp),
    (AF_MCTP, .mctp)]
  other := .other
  toNum
    | .unspec => AF_UNSPEC | .local_ => AF_LOCAL | .unix => AF_UNIX | .inet => AF_INET
    | .ax25 => AF_AX25 | .ipx => AF_IPX | .appletalk => AF_APPLETALK | .netrom => AF_NETROM
    | .bridge => AF_BRIDGE | .atmpvc => AF_ATMPVC | .x25 => AF_X25 | .inet6 => AF_INET6
    | .rose => AF_ROSE | .decnet => AF_DECnet | .netbeui => AF_NETBEUI | .security => AF_SECURITY
    | .key => AF_KEY | .route => AF_ROUTE | .netlink => AF_NETLINK | .packet => AF_PACKET
    | .ash => AF_ASH | .econet => AF_ECONET | .atmsvc => AF_ATMSVC | .rds => AF_RDS
    | .sna => AF_SNA | .irda => AF_IRDA | .pppox => AF_PPPOX | .wanpipe => AF_WANPIPE
    | .llc => AF_LLC | .ib => AF_IB | .mpls => AF_MPLS | .can => AF_CAN | .tipc => AF_TIPC
    | .bluetooth => AF_BLUETOOTH | .iucv => AF_IUCV | .rxrpc => AF_RXRPC | .isdn => AF_ISDN
    | .phonet => AF_PHONET | .ieee802154 => AF_IEEE802154 | .caif => AF_CAIF | .alg => AF_ALG
    | .nfc => AF_NFC | .vsock => AF_VSOCK | .kcm => AF_KCM | .qipcrtr => AF_QIPCRTR
    | .smc => AF_SMC | .xdp => AF_XDP | .mctp => AF_MCTP | .other d => d
  toNum_arm := by decide
  toNum_other _ := rfl

/-- The text `{:?}` gives for a family. -/
def AddressFamily.debugName : AddressFamily → String
  | .unspec => "Unspec" | .local_ => "Local" | .unix => "Unix" | .inet => "Inet" | .ax25 => "Ax25"
  | .ipx => "Ipx" | .appletalk => "Appletalk" | .netrom => "Netrom" | .bridge => "Bridge"
  | .atmpvc => "Atmpvc" | .x25 => "X25" | .inet6 => "Inet6" | .rose => "Rose"
  | .decnet => "Decnet" | .netbeui => "Netbeui" | .security => "Security" | .key => "Key"
  | .route => "Route" | .netlink => "Netlink" | .packet => "Packet" | .ash => "Ash"
  | .econet => "Econet" | .atmsvc => "Atmsvc" | .rds => "Rds" | .sna => "Sna" | .irda => "Irda"
  | .pppox => "Pppox" | .wanpipe => "Wanpipe" | .llc => "Llc" | .ib => "Ib" | .mpls => "Mpls"
  | .can => "Can" | .tipc => "Tipc" | .bluetooth => "Bluetooth" | .iucv => "Iucv"
  | .rxrpc => "Rxrpc" | .isdn => "Isdn" | .phonet => "Phonet" | .ieee802154 => "Ieee802154"
  | .caif => "Caif" | .alg => "Alg" | .nfc => "Nfc" | .vsock => "Vsock" | .kcm => "Kcm"
  | .qipcrtr => "Qipcrtr" | .smc => "Smc" | .xdp => "Xdp" | .mctp => "Mctp"
  | .other d => "Other(" ++ toString d ++ ")"

instance : Inhabited AddressFamily := ⟨.unspec⟩

/-! ## IP addresses -/

abbrev Ipv4Addr := Octets 4

abbrev Ipv6Addr := Octets 16

abbrev IPV4_ADDR_LEN : ℕ := 4

abbrev IPV6_ADDR_LEN : ℕ := 16

/-- `parse_ipv4_addr`. -/
def parseIpv4Addr (raw : Bytes) : Outcome Ipv4Addr :=
  if h : raw.length = IPV4_ADDR_LEN then .ok ⟨raw, h⟩
  else .fail ("Invalid u8 array length " ++ toString raw.length ++
    ", expecting 4 for IPv4 address, got " ++ debug raw)

/-- `parse_ipv6_addr`. -/
def parseIpv6Addr (raw : Bytes) : Outcome Ipv6Addr :=
  if h : raw.length = IPV6_ADDR_LEN then .ok ⟨raw, h⟩
  else .fail ("Invalid u8 array length " ++ toString raw.length ++
    ", expecting 16 for IPv6 address, got " ++ debug raw)

/-- `parse_ip_addr`: the length tells the version. -/
def parseIpAddr (raw : Bytes) : Outcome IpAddr :=
  if raw.length = IPV6_ADDR_LEN then .v6 <$> parseIpv6Addr raw
  else if raw.length = IPV4_ADDR_LEN then .v4 <$> parseIpv4Addr raw
  else .fail ("Invalid u8 array length " ++ toString raw.length ++
    ", expecting 16 for IPv6 address or 4 for IPv4 address, got " ++ debug raw)

/-- The octets of an address. -/
def IpAddr.octets : IpAddr → Bytes
  | .v4 a => a.val
  | .v6 a => a.val

/-- The text `{}` gives for an IPv4 address. -/
def Ipv4Addr.display (a : Ipv4Addr) : String := ".".intercalate (a.val.map toString)

/-- The eight groups of an IPv6 address. -/
def Ipv6Addr.segments (a : Ipv6Addr) : List ℕ :=
  (List.range 8).map fun i => 256 * (a.val.getD (2 * i) 0).toNat + (a.val.getD (2 * i + 1) 0).toNat

/-- The first longest run of zeros: where it starts, and its length. -/
def longestZeros (segments : List ℕ) : ℕ × ℕ :=
  (List.range segments.length).foldl (fun best i =>
    let n := ((segments.drop i).takeWhile (· == 0)).length
    if best.2 < n then (i, n) else best) (0, 0)

/-- The text `{}` gives for an IPv6 address: mapped IPv4 addresses keep
their own form, and one run of zero groups is left out. -/
def Ipv6Addr.display (a : Ipv6Addr) : String :=
  let segments := a.segments
  let hex (s : List ℕ) : String := ":".intercalate (s.map fun n => .ofList (Nat.toDigits 16 n))
  if a.val.take 12 = zeros 10 ++ [255, 255] then
    "::ffff:" ++ Ipv4Addr.display (.ofBytes 4 (a.val.drop 12))
  else
    let (start, n) := longestZeros segments
    if n > 1 then hex (segments.take start) ++ "::" ++ hex (segments.drop (start + n))
    else hex segments

/-- The text `{}` gives for an address. -/
def IpAddr.display : IpAddr → String
  | .v4 a => Ipv4Addr.display a
  | .v6 a => Ipv6Addr.display a

/-- `emit_ip_to_buffer`, and `emit_ip_addr`, which has the same body. -/
def emitIpToBuffer (ip : IpAddr) : Emitter := .copy ip.octets

/-- `ip_addr_len`. -/
def ipAddrLen : IpAddr → ℕ
  | .v4 _ => IPV4_ADDR_LEN
  | .v6 _ => IPV6_ADDR_LEN

/-! ## What they do -/

variable {raw : Bytes}

/-- The address parsers of the families check the length first, so they
never panic. -/
@[simp] theorem parseIpv4Addr_ne_panic : parseIpv4Addr raw ≠ .panic := by
  unfold parseIpv4Addr
  split <;> simp

@[simp] theorem parseIpv6Addr_ne_panic : parseIpv6Addr raw ≠ .panic := by
  unfold parseIpv6Addr
  split <;> simp

/-- Neither does the parser that tells the versions apart by their length. -/
@[simp] theorem parseIpAddr_ne_panic : parseIpAddr raw ≠ .panic := by
  unfold parseIpAddr
  split_ifs <;> simp

/-- They read back the octets of an address. -/
@[simp] theorem parseIpv4Addr_val (a : Ipv4Addr) : parseIpv4Addr a.val = .ok a := dif_pos a.property

@[simp] theorem parseIpv6Addr_val (a : Ipv6Addr) : parseIpv6Addr a.val = .ok a := dif_pos a.property

end NetlinkRoute
