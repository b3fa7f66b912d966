import NetlinkRoute.Common.Message
import NetlinkRoute.Family
/-!
# Link — the header

The layer type of a link has no place for numbers it does not know: they
are all read as `Void`. The second byte of the header is reserved and has
no setter call.
-/

namespace NetlinkRoute

open PacketUtils Emitter

abbrev ARPHRD_NETROM : UInt16 := 0
abbrev ARPHRD_ETHER : UInt16 := 1
abbrev ARPHRD_EETHER : UInt16 := 2
abbrev ARPHRD_AX25 : UInt16 := 3
abbrev ARPHRD_PRONET : UInt16 := 4
abbrev ARPHRD_CHAOS : UInt16 := 5
abbrev ARPHRD_IEEE802 : UInt16 := 6
abbrev ARPHRD_ARCNET : UInt16 := 7
abbrev ARPHRD_APPLETLK : UInt16 := 8
abbrev ARPHRD_DLCI : UInt16 := 15
abbrev ARPHRD_ATM : UInt16 := 19
abbrev ARPHRD_METRICOM : UInt16 := 23
abbrev ARPHRD_IEEE1394 : UInt16 := 24
abbrev ARPHRD_EUI64 : UInt16 := 27
abbrev ARPHRD_INFINIBAND : UInt16 := 32
abbrev ARPHRD_SLIP : UInt16 := 256
abbrev ARPHRD_CSLIP : UInt16 := 257
abbrev ARPHRD_SLIP6 : UInt16 := 258
abbrev ARPHRD_CSLIP6 : UInt16 := 259
abbrev ARPHRD_RSRVD : UInt16 := 260
abbrev ARPHRD_ADAPT : UInt16 := 264
abbrev ARPHRD_ROSE : UInt16 := 270
abbrev ARPHRD_X25 : UInt16 := 271
abbrev ARPHRD_HWX25 : UInt16 := 272
abbrev ARPHRD_CAN : UInt16 := 280
abbrev ARPHRD_PPP : UInt16 := 512
abbrev ARPHRD_CISCO : UInt16 := 513
abbrev ARPHRD_HDLC : UInt16 := ARPHRD_CISCO
abbrev ARPHRD_LAPB : UInt16 := 516
abbrev ARPHRD_DDCMP : UInt16 := 517
abbrev ARPHRD_RAWHDLC : UInt16 := 518
abbrev ARPHRD_RAWIP : UInt16 := 519
abbrev ARPHRD_TUNNEL : UInt16 := 768
abbrev ARPHRD_TUNNEL6 : UInt16 := 769
abbrev ARPHRD_FRAD : UInt16 := 770
abbrev ARPHRD_SKIP : UInt16 := 771
abbrev ARPHRD_LOOPBACK : UInt16 := 772
abbrev ARPHRD_LOCALTLK : UInt16 := 773
abbrev ARPHRD_FDDI : UInt16 := 774
abbrev ARPHRD_BIF : UInt16 := 775
abbrev ARPHRD_SIT : UInt16 := 776
abbrev ARPHRD_IPDDP : UInt16 := 777
abbrev ARPHRD_IPGRE : UInt16 := 778
abbrev ARPHRD_PIMREG : UInt16 := 779
abbrev ARPHRD_HIPPI : UInt16 := 780
abbrev ARPHRD_ASH : UInt16 := 781
abbrev ARPHRD_ECONET : UInt16 := 782
abbrev ARPHRD_IRDA : UInt16 := 783
abbrev ARPHRD_FCPP : UInt16 := 784
abbrev ARPHRD_FCAL : UInt16 := 785
abbrev ARPHRD_FCPL : UInt16 := 786
abbrev ARPHRD_FCFABRIC : UInt16 := 787
abbrev ARPHRD_IEEE802_TR : UInt16 := 800
abbrev ARPHRD_IEEE80211 : UInt16 := 801
abbrev ARPHRD_IEEE80211_PRISM : UInt16 := 802
abbrev ARPHRD_IEEE80211_RADIOTAP : UInt16 := 803
abbrev ARPHRD_IEEE802154 : UInt16 := 804
abbrev ARPHRD_IEEE802154_MONITOR : UInt16 := 805
abbrev ARPHRD_PHONET : UInt16 := 820
abbrev ARPHRD_PHONET_PIPE : UInt16 := 821
abbrev ARPHRD_CAIF : UInt16 := 822
abbrev ARPHRD_IP6GRE : UInt16 := 823
abbrev ARPHRD_NETLINK : UInt16 := 824
abbrev ARPHRD_6LOWPAN : UInt16 := 825
abbrev ARPHRD_VSOCKMON : UInt16 := 826
abbrev ARPHRD_VOID : UInt16 := 0xffff
abbrev ARPHRD_NONE : UInt16 := 0xfffe

/-- The kind of hardware below a link. -/
inductive LinkLayerType where
  | netrom | ether | eether | ax25 | pronet | chaos | ieee802 | arcnet | appletlk | dlci | atm
  | metricom | ieee1394 | eui64 | infiniband | slip | cslip | slip6 | cslip6 | rsrvd | adapt
  | rose | x25 | hwx25 | can | ppp | hdlc | lapb | ddcmp | rawhdlc | rawip | tunnel | tunnel6
  | frad | skip | loopback | localtlk | fddi | bif | sit | ipddp | ipgre | pimreg | hippi | ash
  | econet | irda | fcpp | fcal | fcpl | fcfabric | ieee802Tr | ieee80211 | ieee80211Prism
  | ieee80211Radiotap | ieee802154 | ieee802154Monitor | phonet | phonetPipe | caif | ip6gre
  | netlink | sixlowpan | vsockmon | void | none
deriving DecidableEq

namespace LinkLayerType

/-- `From<u16> for LinkLayerType`. -/
def ofNum (d : UInt16) : LinkLayerType :=
  select d [
    (ARPHRD_NETROM, .netrom), (ARPHRD_ETHER, .ether), (ARPHRD_EETHER, .eether),
    (ARPHRD_AX25, .ax25), (ARPHRD_PRONET, .pronet), (ARPHRD_CHAOS, .chaos),
    (ARPHRD_IEEE802, .ieee802), (ARPHRD_ARCNET, .arcnet), (ARPHRD_APPLETLK, .appletlk),
    (ARPHRD_DLCI, .dlci), (ARPHRD_ATM, .atm), (ARPHRD_METRICOM, .metricom),
    (ARPHRD_IEEE1394, .ieee1394), (ARPHRD_EUI64, .eui64), (ARPHRD_INFINIBAND, .infiniband),
    (ARPHRD_SLIP, .slip), (ARPHRD_CSLIP, .cslip), (ARPHRD_SLIP6, .slip6),
    (ARPHRD_CSLIP6, .cslip6), (ARPHRD_RSRVD, .rsrvd), (ARPHRD_ADAPT, .adapt),
    (ARPHRD_ROSE, .rose), (ARPHRD_X25, .x25), (ARPHRD_HWX25, .hwx25), (ARPHRD_CAN, .can),
    (ARPHRD_PPP, .ppp), (ARPHRD_HDLC, .hdlc), (ARPHRD_LAPB, .lapb), (ARPHRD_DDCMP, .ddcmp),
    (ARPHRD_RAWHDLC, .rawhdlc), (ARPHRD_RAWIP, .rawip), (ARPHRD_TUNNEL, .tunnel),
    (ARPHRD_TUNNEL6, .tunnel6), (ARPHRD_FRAD, .frad), (ARPHRD_SKIP, .skip),
    (ARPHRD_LOOPBACK, .loopback), (ARPHRD_LOCALTLK, .localtlk), (ARPHRD_FDDI, .fddi),
    (ARPHRD_BIF, .bif), (ARPHRD_SIT, .sit), (ARPHRD_IPDDP, .ipddp), (ARPHRD_IPGRE, .ipgre),
    (ARPHRD_PIMREG, .pimreg), (ARPHRD_HIPPI, .hippi), (ARPHRD_ASH, .ash),
    (ARPHRD_ECONET, .econet), (ARPHRD_IRDA, .irda), (ARPHRD_FCPP, .fcpp), (ARPHRD_FCAL, .fcal),
    (ARPHRD_FCPL, .fcpl), (ARPHRD_FCFABRIC, .fcfabric), (ARPHRD_IEEE802_TR, .ieee802Tr),
    (ARPHRD_IEEE80211, .ieee80211), (ARPHRD_IEEE80211_PRISM, .ieee80211Prism),
    (ARPHRD_IEEE80211_RADIOTAP, .ieee80211Radiotap), (ARPHRD_IEEE802154, .ieee802154),
    (ARPHRD_IEEE802154_MONITOR, .ieee802154Monitor), (ARPHRD_PHONET, .phonet),
    (ARPHRD_PHONET_PIPE, .phonetPipe), (ARPHRD_CAIF, .caif), (ARPHRD_IP6GRE, .ip6gre),
    (ARPHRD_NETLINK, .netlink), (ARPHRD_6LOWPAN, .sixlowpan), (ARPHRD_VSOCKMON, .vsockmon),
    (ARPHRD_VOID, .void), (ARPHRD_NONE, .none)]
    .void

/-- `v as u16`. -/
def toNum : LinkLayerType → UInt16
  | .netrom => ARPHRD_NETROM | .ether => ARPHRD_ETHER | .eether => ARPHRD_EETHER
  | .ax25 => ARPHRD_AX25 | .pronet => ARPHRD_PRONET | .chaos => ARPHRD_CHAOS
  | .ieee802 => ARPHRD_IEEE802 | .arcnet => ARPHRD_ARCNET | .appletlk => ARPHRD_APPLETLK
  | .dlci => ARPHRD_DLCI | .atm => ARPHRD_ATM | .metricom => ARPHRD_METRICOM
  | .ieee1394 => ARPHRD_IEEE1394 | .eui64 => ARPHRD_EUI64 | .infiniband => ARPHRD_INFINIBAND
  | .slip => ARPHRD_SLIP | .cslip => ARPHRD_CSLIP | .slip6 => ARPHRD_SLIP6
  | .cslip6 => ARPHRD_CSLIP6 | .rsrvd => ARPHRD_RSRVD | .adapt => ARPHRD_ADAPT
  | .rose => ARPHRD_ROSE | .x25 => ARPHRD_X25 | .hwx25 => ARPHRD_HWX25 | .can => ARPHRD_CAN
  | .ppp => ARPHRD_PPP | .hdlc => ARPHRD_HDLC | .lapb => ARPHRD_LAPB | .ddcmp => ARPHRD_DDCMP
  | .rawhdlc => ARPHRD_RAWHDLC | .rawip => ARPHRD_RAWIP | .tunnel => ARPHRD_TUNNEL
  | .tunnel6 => ARPHRD_TUNNEL6 | .frad => ARPHRD_FRAD | .skip => ARPHRD_SKIP
  | .loopback => ARPHRD_LOOPBACK | .localtlk => ARPHRD_LOCALTLK | .fddi => ARPHRD_FDDI
  | .bif => ARPHRD_BIF | .sit => ARPHRD_SIT | .ipddp => ARPHRD_IPDDP | .ipgre => ARPHRD_IPGRE
  | .pimreg => ARPHRD_PIMREG | .hippi => ARPHRD_HIPPI | .ash => ARPHRD_ASH
  | .econet => ARPHRD_ECONET | .irda => ARPHRD_IRDA | .fcpp => ARPHRD_FCPP | .fcal => ARPHRD_FCAL
  | .fcpl => ARPHRD_FCPL | .fcfabric => ARPHRD_FCFABRIC | .ieee802Tr => ARPHRD_IEEE802_TR
  | .ieee80211 => ARPHRD_IEEE80211 | .ieee80211Prism => ARPHRD_IEEE80211_PRISM
  | .ieee80211Radiotap => ARPHRD_IEEE80211_RADIOTAP | .ieee802154 => ARPHRD_IEEE802154
  | .ieee802154Monitor => ARPHRD_IEEE802154_MONITOR | .phonet => ARPHRD_PHONET
  | .phonetPipe => ARPHRD_PHONET_PIPE | .caif => ARPHRD_CAIF | .ip6gre => ARPHRD_IP6GRE
  | .netlink => ARPHRD_NETLINK | .sixlowpan => ARPHRD_6LOWPAN | .vsockmon => ARPHRD_VSOCKMON
  | .void => ARPHRD_VOID | .none => ARPHRD_NONE

/-- Every layer type comes back from its number. -/
@[simp] theorem ofNum_toNum (t : LinkLayerType) : ofNum t.toNum = t := by
  cases t <;> rfl

end LinkLayerType

/-- `LinkHeader`. The flags are bit sets that keep unknown bits. -/
structure LinkHeader where
  interfaceFamily : AddressFamily
  index : UInt32
  linkLayerType : LinkLayerType
  flags : UInt32
  changeMask : UInt32
deriving DecidableEq

/-- `LinkMessageBuffer`. -/
def LinkHeader.codec [Host] : HeaderCodec LinkHeader where
  len := 16
  parse buf := do
    return {
      interfaceFamily := AddressFamily.codec.ofNum (← getU8 buf 0)
      linkLayerType := LinkLayerType.ofNum (← getU16 buf 2)
      index := ← getU32 buf 4
      flags := ← getU32 buf 8
      changeMask := ← getU32 buf 12 }
  layout h := [
    (0, [AddressFamily.codec.toNum h.interfaceFamily]), (2, ne.u16 h.linkLayerType.toNum),
    (4, ne.u32 h.index), (8, ne.u32 h.flags), (12, ne.u32 h.changeMask)]
  WellFormed h := AddressFamily.codec.Canonical h.interfaceFamily
  ascending h := by simp [Ascending]
  parse_layout h rest hw := by
    simp [gapped, zeros, getU32_append, hw.ofNum_toNum]
  parse_of_le b hb := by
    simp (disch := exact fits_of_le hb rfl) only [getU8_of_le, getU16_of_le, getU32_of_le,
      Outcome.ok_bind,
      Outcome.pure_eq]
    exact ⟨_, rfl, by simp⟩

end NetlinkRoute
