import NetlinkRoute.Link.Model.Values
import NetlinkRoute.Family
/-!
# Link — attributes by address family

`IFLA_AF_SPEC` and `IFLA_PROTINFO` hold what a protocol family keeps about
a link; which family decides how the payload is read. Structures that grow
with the kernel are padded to the size the program knows before they are
read. One of them, the IPv6 cache times, is not.
-/

namespace NetlinkRoute

open PacketUtils Emitter

/-! ## Structures -/

section Structs

variable [Host]

/-- The getter of a word, where words follow one another. -/
theorem getI32_words {ws : List Int32} {rest : Bytes} {off : ℕ} (h : off % 4 = 0)
    (hlt : off / 4 < ws.length) :
    getI32 (ws.flatMap ne.i32 ++ rest) off = .ok (ws.getD (off / 4) 0) := by
  induction ws generalizing off with
  | nil => simp at hlt
  | cons w ws ih =>
    rw [List.flatMap_cons, List.append_assoc]
    obtain rfl | hpos := Nat.eq_zero_or_pos off
    · rw [getI32_i32_append]
      rfl
    · have hdiv : off / 4 = (off - 4) / 4 + 1 := by omega
      rw [getI32_append (by rw [length_i32]; omega), length_i32, ih (by omega)
        (by rw [List.length_cons] at hlt; omega), hdiv, List.getD_cons_succ]

/-- `InetDevConf`, the IPv4 settings of a device. -/
structure InetDevConf where
  forwarding : Int32
  mcForwarding : Int32
  proxyArp : Int32
  acceptRedirects : Int32
  secureRedirects : Int32
  sendRedirects : Int32
  sharedMedia : Int32
  rpFilter : Int32
  acceptSourceRoute : Int32
  bootpRelay : Int32
  logMartians : Int32
  tag : Int32
  arpfilter : Int32
  mediumId : Int32
  noxfrm : Int32
  nopolicy : Int32
  forceIgmpVersion : Int32
  arpAnnounce : Int32
  arpIgnore : Int32
  promoteSecondaries : Int32
  arpAccept : Int32
  arpNotify : Int32
  acceptLocal : Int32
  srcVmark : Int32
  proxyArpPvlan : Int32
  routeLocalnet : Int32
  igmpv2UnsolicitedReportInterval : Int32
  igmpv3UnsolicitedReportInterval : Int32
  ignoreRoutesWithLinkdown : Int32
  dropUnicastInL2Multicast : Int32
  dropGratuitousArp : Int32
  bcForwarding : Int32
  arpEvictNocarrier : Int32
deriving DecidableEq

/-- `InetDevConfBuffer`: getters and setters of `InetDevConf`. -/
def InetDevConf.codec : StructCodec InetDevConf where
  len := 132
  parse buf := do
    return {
      forwarding := ← getI32 buf 0, mcForwarding := ← getI32 buf 4, proxyArp := ← getI32 buf 8,
      acceptRedirects := ← getI32 buf 12, secureRedirects := ← getI32 buf 16,
      sendRedirects := ← getI32 buf 20, sharedMedia := ← getI32 buf 24,
      rpFilter := ← getI32 buf 28, acceptSourceRoute := ← getI32 buf 32,
      bootpRelay := ← getI32 buf 36, logMartians := ← getI32 buf 40, tag := ← getI32 buf 44,
      arpfilter := ← getI32 buf 48, mediumId := ← getI32 buf 52, noxfrm := ← getI32 buf 56,
      nopolicy := ← getI32 buf 60, forceIgmpVersion := ← getI32 buf 64,
      arpAnnounce := ← getI32 buf 68, arpIgnore := ← getI32 buf 72,
      promoteSecondaries := ← getI32 buf 76, arpAccept := ← getI32 buf 80,
      arpNotify := ← getI32 buf 84, acceptLocal := ← getI32 buf 88, srcVmark := ← getI32 buf 92,
      proxyArpPvlan := ← getI32 buf 96, routeLocalnet := ← getI32 buf 100,
      igmpv2UnsolicitedReportInterval := ← getI32 buf 104,
      igmpv3UnsolicitedReportInterval := ← getI32 buf 108,
      ignoreRoutesWithLinkdown := ← getI32 buf 112, dropUnicastInL2Multicast := ← getI32 buf 116,
      dropGratuitousArp := ← getI32 buf 120, bcForwarding := ← getI32 buf 124,
      arpEvictNocarrier := ← getI32 buf 128 }
  layout v := [
    (0, ne.i32 v.forwarding), (4, ne.i32 v.mcForwarding), (8, ne.i32 v.proxyArp),
    (12, ne.i32 v.acceptRedirects), (16, ne.i32 v.secureRedirects), (20, ne.i32 v.sendRedirects),
    (24, ne.i32 v.sharedMedia), (28, ne.i32 v.rpFilter), (32, ne.i32 v.acceptSourceRoute),
    (36, ne.i32 v.bootpRelay), (40, ne.i32 v.logMartians), (44, ne.i32 v.tag),
    (48, ne.i32 v.arpfilter), (52, ne.i32 v.mediumId), (56, ne.i32 v.noxfrm),
    (60, ne.i32 v.nopolicy), (64, ne.i32 v.forceIgmpVersion), (68, ne.i32 v.arpAnnounce),
    (72, ne.i32 v.arpIgnore), (76, ne.i32 v.promoteSecondaries), (80, ne.i32 v.arpAccept),
    (84, ne.i32 v.arpNotify), (88, ne.i32 v.acceptLocal), (92, ne.i32 v.srcVmark),
    (96, ne.i32 v.proxyArpPvlan), (100, ne.i32 v.routeLocalnet),
    (104, ne.i32 v.igmpv2UnsolicitedReportInterval),
    (108, ne.i32 v.igmpv3UnsolicitedReportInterval), (112, ne.i32 v.ignoreRoutesWithLinkdown),
    (116, ne.i32 v.dropUnicastInL2Multicast), (120, ne.i32 v.dropGratuitousArp),
    (124, ne.i32 v.bcForwarding), (128, ne.i32 v.arpEvictNocarrier)]
  tiles v := by simp [Tiles]
  length_layout v := by simp
  parse_layout v rest := by simp [getI32_append]
  parse_of_le b hb := by
    simp (disch := exact fits_of_le hb rfl) only [getI32_of_le, Outcome.ok_bind, Outcome.pure_eq]
    exact ⟨_, rfl⟩

/-- `Inet6CacheInfo`, the IPv6 cache times. -/
structure Inet6CacheInfo where
  maxReasmLen : Int32
  tstamp : Int32
  reachableTime : Int32
  retransTime : Int32
deriving DecidableEq

/-- `Inet6CacheInfoBuffer`: getters and setters of `Inet6CacheInfo`. -/
def Inet6CacheInfo.codec : StructCodec Inet6CacheInfo where
  len := 16
  parse buf := do
    return {
      maxReasmLen := ← getI32 buf 0, tstamp := ← getI32 buf 4, reachableTime := ← getI32 buf 8,
      retransTime := ← getI32 buf 12 }
  layout v := [
    (0, ne.i32 v.maxReasmLen), (4, ne.i32 v.tstamp), (8, ne.i32 v.reachableTime),
    (12, ne.i32 v.retransTime)]
  tiles v := by simp [Tiles]
  length_layout v := by simp
  parse_layout v rest := by simp [getI32_append]
  parse_of_le b hb := by
    simp (disch := exact fits_of_le hb rfl) only [getI32_of_le, Outcome.ok_bind, Outcome.pure_eq]
    exact ⟨_, rfl⟩

/-- `Inet6DevConf`, the IPv6 settings of a device. -/
structure Inet6DevConf where
  forwarding : Int32
  hoplimit : Int32
  mtu6 : Int32
  acceptRa : Int32
  acceptRedirects : Int32
  autoconf : Int32
  dadTransmits : Int32
  rtrSolicits : Int32
  rtrSolicitInterval : Int32
  rtrSolicitDelay : Int32
  useTempaddr : Int32
  tempValidLft : Int32
  tempPreferedLft : Int32
  regenMaxRetry : Int32
  maxDesyncFactor : Int32
  maxAddresses : Int32
  forceMldVersion : Int32
  acceptRaDefrtr : Int32
  acceptRaPinfo : Int32
  acceptRaRtrPref : Int32
  rtrProbeInterval : Int32
  acceptRaRtInfoMaxPlen : Int32
  proxyNdp : Int32
  optimisticDad : Int32
  acceptSourceRoute : Int32
  mcForwarding : Int32
  disableIpv6 : Int32
  acceptDad : Int32
  forceTllao : Int32
  ndiscNotify : Int32
  mldv1UnsolicitedReportInterval : Int32
  mldv2UnsolicitedReportInterval : Int32
  suppressFragNdisc : Int32
  acceptRaFromLocal : Int32
  useOptimistic : Int32
  acceptRaMtu : Int32
  stableSecret : Int32
  useOifAddrsOnly : Int32
  acceptRaMinHopLimit : Int32
  ignoreRoutesWithLinkdown : Int32
  dropUnicastInL2Multicast : Int32
  dropUnsolicitedNa : Int32
  keepAddrOnDown : Int32
  rtrSolicitMaxInterval : Int32
  seg6Enabled : Int32
  seg6RequireHmac : Int32
  enhancedDad : Int32
  addrGenMode : Int32
  disablePolicy : Int32
  acceptRaRtInfoMinPlen : Int32
  ndiscTclass : Int32
  rplSegEnabled : Int32
  raDefrtrMetric : Int32
  ioam6Enabled : Int32
  ioam6Id : Int32
  ioam6IdWide : Int32
  ndiscEvictNocarrier : Int32
  acceptUntrackedNa : Int32
  acceptRaMinLft : Int32
  forceForwarding : Int32
deriving DecidableEq

/-- The values of `Inet6DevConf`, in the order in which they stand. -/
def Inet6DevConf.words (v : Inet6DevConf) : List Int32 := [
  v.forwarding, v.hoplimit, v.mtu6, v.acceptRa, v.acceptRedirects, v.autoconf, v.dadTransmits,
  v.rtrSolicits, v.rtrSolicitInterval, v.rtrSolicitDelay, v.useTempaddr, v.tempValidLft,
  v.tempPreferedLft, v.regenMaxRetry, v.maxDesyncFactor, v.maxAddresses, v.forceMldVersion,
  v.acceptRaDefrtr, v.acceptRaPinfo, v.acceptRaRtrPref, v.rtrProbeInterval,
  v.acceptRaRtInfoMaxPlen, v.proxyNdp, v.optimisticDad, v.acceptSourceRoute, v.mcForwarding,
  v.disableIpv6, v.acceptDad, v.forceTllao, v.ndiscNotify, v.mldv1UnsolicitedReportInterval,
  v.mldv2UnsolicitedReportInterval, v.suppressFragNdisc, v.acceptRaFromLocal, v.useOptimistic,
  v.acceptRaMtu, v.stableSecret, v.useOifAddrsOnly, v.acceptRaMinHopLimit,
  v.ignoreRoutesWithLinkdown, v.dropUnicastInL2Multicast, v.dropUnsolicitedNa, v.keepAddrOnDown,
  v.rtrSolicitMaxInterval, v.seg6Enabled, v.seg6RequireHmac, v.enhancedDad, v.addrGenMode,
  v.disablePolicy, v.acceptRaRtInfoMinPlen, v.ndiscTclass, v.rplSegEnabled, v.raDefrtrMetric,
  v.ioam6Enabled, v.ioam6Id, v.ioam6IdWide, v.ndiscEvictNocarrier, v.acceptUntrackedNa,
  v.acceptRaMinLft, v.forceForwarding]

/-- The getters of `Inet6DevConfBuffer`. -/
def Inet6DevConf.parse (buf : Bytes) : Outcome Inet6DevConf := do
  return {
    forwarding := ← getI32 buf 0, hoplimit := ← getI32 buf 4, mtu6 := ← getI32 buf 8,
    acceptRa := ← getI32 buf 12, acceptRedirects := ← getI32 buf 16,
    autoconf := ← getI32 buf 20, dadTransmits := ← getI32 buf 24,
    rtrSolicits := ← getI32 buf 28, rtrSolicitInterval := ← getI32 buf 32,
    rtrSolicitDelay := ← getI32 buf 36, useTempaddr := ← getI32 buf 40,
    tempValidLft := ← getI32 buf 44, tempPreferedLft := ← getI32 buf 48,
    regenMaxRetry := ← getI32 buf 52, maxDesyncFactor := ← getI32 buf 56,
    maxAddresses := ← getI32 buf 60, forceMldVersion := ← getI32 buf 64,
    acceptRaDefrtr := ← getI32 buf 68, acceptRaPinfo := ← getI32 buf 72,
    acceptRaRtrPref := ← getI32 buf 76, rtrProbeInterval := ← getI32 buf 80,
    acceptRaRtInfoMaxPlen := ← getI32 buf 84, proxyNdp := ← getI32 buf 88,
    optimisticDad := ← getI32 buf 92, acceptSourceRoute := ← getI32 buf 96,
    mcForwarding := ← getI32 buf 100, disableIpv6 := ← getI32 buf 104,
    acceptDad := ← getI32 buf 108, forceTllao := ← getI32 buf 112,
    ndiscNotify := ← getI32 buf 116, mldv1UnsolicitedReportInterval := ← getI32 buf 120,
    mldv2UnsolicitedReportInterval := ← getI32 buf 124, suppressFragNdisc := ← getI32 buf 128,
    acceptRaFromLocal := ← getI32 buf 132, useOptimistic := ← getI32 buf 136,
    acceptRaMtu := ← getI32 buf 140, stableSecret := ← getI32 buf 144,
    useOifAddrsOnly := ← getI32 buf 148, acceptRaMinHopLimit := ← getI32 buf 152,
    ignoreRoutesWithLinkdown := ← getI32 buf 156, dropUnicastInL2Multicast := ← getI32 buf 160,
    dropUnsolicitedNa := ← getI32 buf 164, keepAddrOnDown := ← getI32 buf 168,
    rtrSolicitMaxInterval := ← getI32 buf 172, seg6Enabled := ← getI32 buf 176,
    seg6RequireHmac := ← getI32 buf 180, enhancedDad := ← getI32 buf 184,
    addrGenMode := ← getI32 buf 188, disablePolicy := ← getI32 buf 192,
    acceptRaRtInfoMinPlen := ← getI32 buf 196, ndiscTclass := ← getI32 buf 200,
    rplSegEnabled := ← getI32 buf 204, raDefrtrMetric := ← getI32 buf 208,
    ioam6Enabled := ← getI32 buf 212, ioam6Id := ← getI32 buf 216,
    ioam6IdWide := ← getI32 buf 220, ndiscEvictNocarrier := ← getI32 buf 224,
    acceptUntrackedNa := ← getI32 buf 228, acceptRaMinLft := ← getI32 buf 232,
    forceForwarding := ← getI32 buf 236 }

/-- Its setters. The one of `ndisc_tclass` is there twice, which changes
nothing. -/
def Inet6DevConf.layout (v : Inet6DevConf) : List (ℕ × Bytes) := [
  (0, ne.i32 v.forwarding), (4, ne.i32 v.hoplimit), (8, ne.i32 v.mtu6), (12, ne.i32 v.acceptRa),
  (16, ne.i32 v.acceptRedirects), (20, ne.i32 v.autoconf), (24, ne.i32 v.dadTransmits),
  (28, ne.i32 v.rtrSolicits), (32, ne.i32 v.rtrSolicitInterval), (36, ne.i32 v.rtrSolicitDelay),
  (40, ne.i32 v.useTempaddr), (44, ne.i32 v.tempValidLft), (48, ne.i32 v.tempPreferedLft),
  (52, ne.i32 v.regenMaxRetry), (56, ne.i32 v.maxDesyncFactor), (60, ne.i32 v.maxAddresses),
  (64, ne.i32 v.forceMldVersion), (68, ne.i32 v.acceptRaDefrtr), (72, ne.i32 v.acceptRaPinfo),
  (76, ne.i32 v.acceptRaRtrPref), (80, ne.i32 v.rtrProbeInterval),
  (84, ne.i32 v.acceptRaRtInfoMaxPlen), (88, ne.i32 v.proxyNdp), (92, ne.i32 v.optimisticDad),
  (96, ne.i32 v.acceptSourceRoute), (100, ne.i32 v.mcForwarding), (104, ne.i32 v.disableIpv6),
  (108, ne.i32 v.acceptDad), (112, ne.i32 v.forceTllao), (116, ne.i32 v.ndiscNotify),
  (120, ne.i32 v.mldv1UnsolicitedReportInterval),
  (124, ne.i32 v.mldv2UnsolicitedReportInterval), (128, ne.i32 v.suppressFragNdisc),
  (132, ne.i32 v.acceptRaFromLocal), (136, ne.i32 v.useOptimistic), (140, ne.i32 v.acceptRaMtu),
  (144, ne.i32 v.stableSecret), (148, ne.i32 v.useOifAddrsOnly),
  (152, ne.i32 v.acceptRaMinHopLimit), (156, ne.i32 v.ignoreRoutesWithLinkdown),
  (160, ne.i32 v.dropUnicastInL2Multicast), (164, ne.i32 v.dropUnsolicitedNa),
  (168, ne.i32 v.keepAddrOnDown), (172, ne.i32 v.rtrSolicitMaxInterval),
  (176, ne.i32 v.seg6Enabled), (180, ne.i32 v.seg6RequireHmac), (184, ne.i32 v.enhancedDad),
  (188, ne.i32 v.addrGenMode), (192, ne.i32 v.disablePolicy),
  (196, ne.i32 v.acceptRaRtInfoMinPlen), (200, ne.i32 v.ndiscTclass),
  (204, ne.i32 v.rplSegEnabled), (208, ne.i32 v.raDefrtrMetric), (212, ne.i32 v.ioam6Enabled),
  (216, ne.i32 v.ioam6Id), (220, ne.i32 v.ioam6IdWide), (224, ne.i32 v.ndiscEvictNocarrier),
  (228, ne.i32 v.acceptUntrackedNa), (232, ne.i32 v.acceptRaMinLft),
  (236, ne.i32 v.forceForwarding)]

theorem Inet6DevConf.layoutBytes_layout (v : Inet6DevConf) :
    layoutBytes v.layout = v.words.flatMap ne.i32 := rfl

/-- The configuration is read back from its words, whatever follows them. -/
theorem Inet6DevConf.parse_layout (v : Inet6DevConf) (rest : Bytes) :
    parse (layoutBytes v.layout ++ rest) = .ok v := by
  have hword : ∀ off, off % 4 = 0 → off / 4 < 60 →
      getI32 (v.words.flatMap ne.i32 ++ rest) off = .ok (v.words.getD (off / 4) 0) :=
    fun off h h' => getI32_words h h'
  rw [layoutBytes_layout, parse]
  simp (disch := decide) only [hword, Outcome.ok_bind, Outcome.pure_eq]
  rfl

/-- Sixty words are enough to read one. -/
theorem Inet6DevConf.parse_of_le {b : Bytes} (h : 240 ≤ b.length) : ∃ v, parse b = .ok v := by
  rw [parse]
  simp (disch := omega) only [getI32_of_le, Outcome.ok_bind, Outcome.pure_eq]
  exact ⟨_, rfl⟩

/-- `Inet6DevConfBuffer`: getters and setters of `Inet6DevConf`. -/
def Inet6DevConf.codec : StructCodec Inet6DevConf where
  len := 240
  parse := parse
  layout := layout
  tiles v := by simp [layout, Tiles]
  length_layout v := by simp [layout]
  parse_layout := parse_layout
  parse_of_le _ := parse_of_le

/-- `Inet6Stats`, the IPv6 counters of a device. -/
structure Inet6Stats where
  num : Int64
  inPkts : Int64
  inOctets : Int64
  inDelivers : Int64
  outForwDatagrams : Int64
  outPkts : Int64
  outOctets : Int64
  inHdrErrors : Int64
  inTooBigErrors : Int64
  inNoRoutes : Int64
  inAddrErrors : Int64
  inUnknownProtos : Int64
  inTruncatedPkts : Int64
  inDiscards : Int64
  outDiscards : Int64
  outNoRoutes : Int64
  reasmTimeout : Int64
  reasmReqds : Int64
  reasmOks : Int64
  reasmFails : Int64
  fragOks : Int64
  fragFails : Int64
  fragCreates : Int64
  inMcastPkts : Int64
  outMcastPkts : Int64
  inBcastPkts : Int64
  outBcastPkts : Int64
  inMcastOctets : Int64
  outMcastOctets : Int64
  inBcastOctets : Int64
  outBcastOctets : Int64
  inCsumErrors : Int64
  inNoEctPkts : Int64
  inEct1Pkts : Int64
  inEct0Pkts : Int64
  inCePkts : Int64
deriving DecidableEq

/-- `Inet6StatsBuffer`. The last two words are no field. -/
def Inet6Stats.codec : HeaderCodec Inet6Stats where
  len := 304
  parse buf := do
    return {
      num := ← getI64 buf 0, inPkts := ← getI64 buf 8, inOctets := ← getI64 buf 16,
      inDelivers := ← getI64 buf 24, outForwDatagrams := ← getI64 buf 32,
      outPkts := ← getI64 buf 40, outOctets := ← getI64 buf 48, inHdrErrors := ← getI64 buf 56,
      inTooBigErrors := ← getI64 buf 64, inNoRoutes := ← getI64 buf 72,
      inAddrErrors := ← getI64 buf 80, inUnknownProtos := ← getI64 buf 88,
      inTruncatedPkts := ← getI64 buf 96, inDiscards := ← getI64 buf 104,
      outDiscards := ← getI64 buf 112, outNoRoutes := ← getI64 buf 120,
      reasmTimeout := ← getI64 buf 128, reasmReqds := ← getI64 buf 136,
      reasmOks := ← getI64 buf 144, reasmFails := ← getI64 buf 152, fragOks := ← getI64 buf 160,
      fragFails := ← getI64 buf 168, fragCreates := ← getI64 buf 176,
      inMcastPkts := ← getI64 buf 184, outMcastPkts := ← getI64 buf 192,
      inBcastPkts := ← getI64 buf 200, outBcastPkts := ← getI64 buf 208,
      inMcastOctets := ← getI64 buf 216, outMcastOctets := ← getI64 buf 224,
      inBcastOctets := ← getI64 buf 232, outBcastOctets := ← getI64 buf 240,
      inCsumErrors := ← getI64 buf 248, inNoEctPkts := ← getI64 buf 256,
      inEct1Pkts := ← getI64 buf 264, inEct0Pkts := ← getI64 buf 272, inCePkts := ← getI64 buf 280 }
  layout v := [
    (0, ne.i64 v.num), (8, ne.i64 v.inPkts), (16, ne.i64 v.inOctets), (24, ne.i64 v.inDelivers),
    (32, ne.i64 v.outForwDatagrams), (40, ne.i64 v.outPkts), (48, ne.i64 v.outOctets),
    (56, ne.i64 v.inHdrErrors), (64, ne.i64 v.inTooBigErrors), (72, ne.i64 v.inNoRoutes),
    (80, ne.i64 v.inAddrErrors), (88, ne.i64 v.inUnknownProtos), (96, ne.i64 v.inTruncatedPkts),
    (104, ne.i64 v.inDiscards), (112, ne.i64 v.outDiscards), (120, ne.i64 v.outNoRoutes),
    (128, ne.i64 v.reasmTimeout), (136, ne.i64 v.reasmReqds), (144, ne.i64 v.reasmOks),
    (152, ne.i64 v.reasmFails), (160, ne.i64 v.fragOks), (168, ne.i64 v.fragFails),
    (176, ne.i64 v.fragCreates), (184, ne.i64 v.inMcastPkts), (192, ne.i64 v.outMcastPkts),
    (200, ne.i64 v.inBcastPkts), (208, ne.i64 v.outBcastPkts), (216, ne.i64 v.inMcastOctets),
    (224, ne.i64 v.outMcastOctets), (232, ne.i64 v.inBcastOctets), (240, ne.i64 v.outBcastOctets),
    (248, ne.i64 v.inCsumErrors), (256, ne.i64 v.inNoEctPkts), (264, ne.i64 v.inEct1Pkts),
    (272, ne.i64 v.inEct0Pkts), (280, ne.i64 v.inCePkts)]
  WellFormed _ := True
  ascending v := by simp [Ascending]
  parse_layout v rest _ := by simp [gapped, getI64_append]
  parse_of_le b hb := by
    simp (disch := exact fits_of_le hb rfl) only [getI64_of_le, Outcome.ok_bind, Outcome.pure_eq]
    exact ⟨_, rfl, trivial⟩

/-- `Icmp6Stats`, the ICMPv6 counters of a device. -/
structure Icmp6Stats where
  num : Int64
  inMsgs : Int64
  inErrors : Int64
  outMsgs : Int64
  outErrors : Int64
  csumErrors : Int64
deriving DecidableEq

/-- `Icmp6StatsBuffer`. The last word is no field. -/
def Icmp6Stats.codec : HeaderCodec Icmp6Stats where
  len := 56
  parse buf := do
    return {
      num := ← getI64 buf 0, inMsgs := ← getI64 buf 8, inErrors := ← getI64 buf 16,
      outMsgs := ← getI64 buf 24, outErrors := ← getI64 buf 32, csumErrors := ← getI64 buf 40 }
  layout v := [
    (0, ne.i64 v.num), (8, ne.i64 v.inMsgs), (16, ne.i64 v.inErrors), (24, ne.i64 v.outMsgs),
    (32, ne.i64 v.outErrors), (40, ne.i64 v.csumErrors)]
  WellFormed _ := True
  ascending v := by simp [Ascending]
  parse_layout v rest _ := by simp [gapped, getI64_append]
  parse_of_le b hb := by
    simp (disch := exact fits_of_le hb rfl) only [getI64_of_le, Outcome.ok_bind, Outcome.pure_eq]
    exact ⟨_, rfl, trivial⟩

end Structs

/-- `BridgeVlanInfo`. -/
structure BridgeVlanInfo where
  flags : UInt16
  vid : UInt16
deriving DecidableEq

section Attributes

variable [PacketUtils]

/-- A structure read after padding. -/
def StructCodec.parseExpanded {α : Type} (s : StructCodec α) (payload : Bytes) : Outcome α :=
  s.parse (expandBufferIfSmall payload s.len)

/-- The same for a structure with gaps. -/
def HeaderCodec.parseExpanded {α : Type} (s : HeaderCodec α) (payload : Bytes) : Outcome α :=
  s.parse (expandBufferIfSmall payload s.len)

/-! ## Bridges -/

namespace BridgeVlanInfo

/-- `From<&BridgeVlanInfo> for [u8; 4]`. -/
def bytes (d : BridgeVlanInfo) : Bytes := ne.u16 d.flags ++ ne.u16 d.vid

/-- `TryFrom<&[u8]>`. -/
def tryFrom (raw : Bytes) : Outcome BridgeVlanInfo :=
  if raw.length = 4 then do
    let flags ← (parseU16 (← slice raw 0 2)).context
      ("Invalid IFLA_BRIDGE_VLAN_INFO value: " ++ debug raw)
    let vid ← (parseU16 (← slice raw 2 4)).context
      ("Invalid IFLA_BRIDGE_VLAN_INFO value: " ++ debug raw)
    .ok { flags, vid }
  else
    .fail ("Invalid IFLA_BRIDGE_VLAN_INFO value, expecting [u8;4], but got " ++ debug raw)

end BridgeVlanInfo

abbrev IFLA_BRIDGE_FLAGS : UInt16 := 0
abbrev IFLA_BRIDGE_VLAN_INFO : UInt16 := 2

/-- `AfSpecBridge`. -/
inductive AfSpecBridge where
  | flags (v : UInt16)
  | vlanInfo (v : BridgeVlanInfo)
  | other (v : DefaultNla)
deriving DecidableEq

namespace AfSpecBridge

def kind : AfSpecBridge → UInt16
  | .flags _ => IFLA_BRIDGE_FLAGS
  | .vlanInfo _ => IFLA_BRIDGE_VLAN_INFO
  | .other nla => nla.kind

def valueLen : AfSpecBridge → ℕ
  | .vlanInfo _ => 4
  | .flags _ => 2
  | .other nla => nla.valueLen

def emitValue : AfSpecBridge → Emitter
  | .flags value => .put 0 (ne.u16 value)
  | .vlanInfo info => .put 0 info.bytes
  | .other nla => nla.emitValue

/-- The attribute, as the attribute layer sees it. -/
def nla (a : AfSpecBridge) : Nla := ⟨a.valueLen, a.kind, a.emitValue⟩

def parse (buf : NlaBuffer) : Outcome AfSpecBridge := do
  let payload ← value buf
  let kind ← PacketUtils.kind buf
  select kind [
    (IFLA_BRIDGE_VLAN_INFO,
      .vlanInfo <$>
        (BridgeVlanInfo.tryFrom payload).context "Invalid IFLA_BRIDGE_VLAN_INFO value"),
    (IFLA_BRIDGE_FLAGS, .flags <$> (parseU16 payload).context "invalid IFLA_BRIDGE_FLAGS value")]
    (.other <$> (defaultNla buf).context ("Unknown NLA type " ++ toString kind))

/-- `VecAfSpecBridge::parse`. -/
def parseVec (payload : Bytes) : Outcome (List AfSpecBridge) :=
  parseNlas "Invalid AF_INET NLA for IFLA_AF_SPEC(AF_BRIDGE)"
    "Invalid AF_INET NLA for IFLA_AF_SPEC(AF_BRIDGE)" parse payload

end AfSpecBridge

/-! ## IPv4 -/

abbrev IFLA_INET_CONF : UInt16 := 1

/-- `AfSpecInet`. -/
inductive AfSpecInet where
  | devConf (v : InetDevConf)
  | other (v : DefaultNla)
deriving DecidableEq

namespace AfSpecInet

def kind : AfSpecInet → UInt16
  | .devConf _ => IFLA_INET_CONF
  | .other nla => nla.kind

def valueLen : AfSpecInet → ℕ
  | .devConf _ => InetDevConf.codec.len
  | .other nla => nla.valueLen

def emitValue : AfSpecInet → Emitter
  | .devConf c => InetDevConf.codec.emit c
  | .other nla => nla.emitValue

/-- The attribute, as the attribute layer sees it. -/
def nla (a : AfSpecInet) : Nla := ⟨a.valueLen, a.kind, a.emitValue⟩

def parse (buf : NlaBuffer) : Outcome AfSpecInet := do
  let payload ← value buf
  let kind ← PacketUtils.kind buf
  select kind [
    (IFLA_INET_CONF,
      .devConf <$> InetDevConf.codec.parseExpanded payload)]
    (.other <$> (defaultNla buf).context
      ("Unknown NLA type " ++ toString kind ++ " for IFLA_AF_SPEC(inet)"))

/-- `VecAfSpecInet::parse`. -/
def parseVec (payload : Bytes) : Outcome (List AfSpecInet) :=
  parseEachWith "Invalid AF_INET NLA for IFLA_AF_SPEC(AF_UNSPEC)" parse payload

end AfSpecInet

/-! ## IPv6 -/

abbrev IFLA_INET6_FLAGS : UInt16 := 1
abbrev IFLA_INET6_CONF : UInt16 := 2
abbrev IFLA_INET6_STATS : UInt16 := 3
abbrev IFLA_INET6_CACHEINFO : UInt16 := 5
abbrev IFLA_INET6_ICMP6STATS : UInt16 := 6
abbrev IFLA_INET6_TOKEN : UInt16 := 7
abbrev IFLA_INET6_ADDR_GEN_MODE : UInt16 := 8
abbrev IFLA_INET6_RA_MTU : UInt16 := 9

/-- `AfSpecInet6`. The flags are a bit set that keeps unknown bits. -/
inductive AfSpecInet6 where
  | flags (v : UInt32)
  | cacheInfo (v : Inet6CacheInfo)
  | devConf (v : Inet6DevConf)
  | stats (v : Inet6Stats)
  | icmp6Stats (v : Icmp6Stats)
  | token (v : Ipv6Addr)
  | addrGenMode (v : UInt8)
  | raMtu (v : UInt32)
  | other (v : DefaultNla)
deriving DecidableEq

namespace AfSpecInet6

def kind : AfSpecInet6 → UInt16
  | .flags _ => IFLA_INET6_FLAGS
  | .cacheInfo _ => IFLA_INET6_CACHEINFO
  | .devConf _ => IFLA_INET6_CONF
  | .stats _ => IFLA_INET6_STATS
  | .icmp6Stats _ => IFLA_INET6_ICMP6STATS
  | .token _ => IFLA_INET6_TOKEN
  | .addrGenMode _ => IFLA_INET6_ADDR_GEN_MODE
  | .raMtu _ => IFLA_INET6_RA_MTU
  | .other nla => nla.kind

def valueLen : AfSpecInet6 → ℕ
  | .cacheInfo _ => Inet6CacheInfo.codec.len
  | .devConf _ => Inet6DevConf.codec.len
  | .stats _ => Inet6Stats.codec.len
  | .icmp6Stats _ => Icmp6Stats.codec.len
  | .flags _ | .raMtu _ => 4
  | .token _ => 16
  | .addrGenMode _ => 1
  | .other nla => nla.valueLen

def emitValue : AfSpecInet6 → Emitter
  | .flags value => .put 0 (ne.u32 value)
  | .raMtu value => .put 0 (ne.u32 value)
  | .cacheInfo v => Inet6CacheInfo.codec.emit v
  | .devConf v => Inet6DevConf.codec.emit v
  | .stats v => Inet6Stats.codec.emit v
  | .icmp6Stats v => Icmp6Stats.codec.emit v
  | .token v => .copy v.val
  | .addrGenMode value => .put 0 [value]
  | .other nla => nla.emitValue

/-- The attribute, as the attribute layer sees it. -/
def nla (a : AfSpecInet6) : Nla := ⟨a.valueLen, a.kind, a.emitValue⟩

def parse (buf : NlaBuffer) : Outcome AfSpecInet6 := do
  let payload ← value buf
  let kind ← PacketUtils.kind buf
  select kind [
    (IFLA_INET6_FLAGS,
      .flags <$> (parseU32 payload).context "invalid IFLA_INET6_FLAGS value"),
    (IFLA_INET6_CACHEINFO,
      .cacheInfo <$>
        (Inet6CacheInfo.codec.parse payload).context
          ("invalid IFLA_INET6_CACHEINFO value " ++ debug payload)),
    (IFLA_INET6_CONF,
      .devConf <$>
        (Inet6DevConf.codec.parseExpanded payload).context
          ("invalid IFLA_INET6_CONF value " ++ debug payload)),
    (IFLA_INET6_STATS,
      .stats <$>
        (Inet6Stats.codec.parseExpanded payload).context
          ("invalid IFLA_INET6_STATS value " ++ debug payload)),
    (IFLA_INET6_ICMP6STATS,
      .icmp6Stats <$>
        (Icmp6Stats.codec.parseExpanded payload).context
          ("invalid IFLA_INET6_ICMP6STATS value " ++ debug payload)),
    (IFLA_INET6_TOKEN,
      .token <$> (parseIpv6Addr payload).context "invalid IFLA_INET6_TOKEN value"),
    (IFLA_INET6_ADDR_GEN_MODE,
      .addrGenMode <$> (parseU8 payload).context "invalid IFLA_INET6_ADDR_GEN_MODE value"),
    (IFLA_INET6_RA_MTU, .raMtu <$> (parseU32 payload).context "invalid IFLA_INET6_RA_MTU value")]
    (.other <$> (defaultNla buf).context
      ("unknown AF_INET6 NLA type " ++ toString kind ++ " for IFLA_AF_SPEC(AF_UNSPEC)"))

/-- `VecAfSpecInet6::parse`. -/
def parseVec (payload : Bytes) : Outcome (List AfSpecInet6) :=
  parseNlas "Invalid AF_INET6 NLA for IFLA_AF_SPEC(AF_UNSPEC)"
    "Invalid AF_INET6 NLA for IFLA_AF_SPEC(AF_UNSPEC)" parse payload

end AfSpecInet6

/-! ## All families -/

/-- `AfSpecUnspec`: a list for each family. -/
inductive AfSpecUnspec where
  | inet (v : List AfSpecInet)
  | inet6 (v : List AfSpecInet6)
  | other (v : DefaultNla)
deriving DecidableEq

namespace AfSpecUnspec

def valueLen : AfSpecUnspec → ℕ
  | .inet nlas => nlasLen (nlas.map AfSpecInet.nla)
  | .inet6 nlas => nlasLen (nlas.map AfSpecInet6.nla)
  | .other nla => nla.valueLen

def emitValue : AfSpecUnspec → Emitter
  | .inet nlas => emitNlas (nlas.map AfSpecInet.nla)
  | .inet6 nlas => emitNlas (nlas.map AfSpecInet6.nla)
  | .other nla => nla.emitValue

def kind : AfSpecUnspec → UInt16
  | .inet _ => (AddressFamily.codec.toNum .inet).toUInt16
  | .inet6 _ => (AddressFamily.codec.toNum .inet6).toUInt16
  | .other nla => nla.kind

/-- The attribute, as the attribute layer sees it. -/
def nla (a : AfSpecUnspec) : Nla := ⟨a.valueLen, a.kind, a.emitValue⟩

/-- One turn of the loop of `VecAfSpecUnspec::parse`. -/
def parse (nla : NlaBuffer) : Outcome AfSpecUnspec := do
  let kind ← PacketUtils.kind nla
  select kind [
    ((AddressFamily.codec.toNum .inet).toUInt16, do
      .inet <$> (AfSpecInet.parseVec (← value nla)).context
        "Invalid NLA for IFLA_AF_SPEC(AF_UNSPEC)"),
    ((AddressFamily.codec.toNum .inet6).toUInt16, do
      .inet6 <$> (AfSpecInet6.parseVec (← value nla)).context
        "Invalid NLA for IFLA_AF_SPEC(AF_UNSPEC)")]
    (.other <$> (defaultNla nla).context
      ("Unknown AF_XXX type " ++ toString kind ++ " for IFLA_AF_SPEC(AF_UNSPEC)"))

/-- `VecAfSpecUnspec::parse`. -/
def parseVec (payload : Bytes) : Outcome (List AfSpecUnspec) :=
  parseEachWith "Invalid NLA for IFLA_AF_SPEC(AF_UNSPEC)" parse payload

end AfSpecUnspec

/-! ## Protocol information

The payload is a list of attributes, and the text of the error is made
from the payload taken for one attribute: it is built at every turn. -/

/-- `LinkProtoInfoBridge`. -/
abbrev LinkProtoInfoBridge := UnnamedNla

def LinkProtoInfoBridge.parse (buf : NlaBuffer) : Outcome LinkProtoInfoBridge :=
  UnnamedNla.parse (fun _ payload => "invalid bridge IFLA_PROTINFO " ++ debug payload) buf

/-- `VecLinkProtoInfoBridge::parse`. -/
def LinkProtoInfoBridge.parseVec (buf : NlaBuffer) : Outcome (List LinkProtoInfoBridge) :=
  parseEachEager ((fun v => "invalid bridge IFLA_PROTINFO " ++ debug v) <$> value buf)
    LinkProtoInfoBridge.parse buf.buffer

/-- `LinkProtoInfoInet6`. -/
abbrev LinkProtoInfoInet6 := UnnamedNla

def LinkProtoInfoInet6.parse (buf : NlaBuffer) : Outcome LinkProtoInfoInet6 :=
  UnnamedNla.parse (fun _ payload => "invalid inet6 IFLA_PROTINFO " ++ debug payload) buf

/-- `VecLinkProtoInfoInet6::parse`. -/
def LinkProtoInfoInet6.parseVec (buf : NlaBuffer) : Outcome (List LinkProtoInfoInet6) :=
  parseEachEager ((fun v => "invalid inet6 IFLA_PROTINFO " ++ debug v) <$> value buf)
    LinkProtoInfoInet6.parse buf.buffer

end Attributes

end NetlinkRoute
