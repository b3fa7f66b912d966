import NetlinkRoute.Common.Message
import NetlinkRoute.Family
/-!
# Neighbour tables

The limits and counters of the kernel's neighbour tables: the model, and
that a message comes back from its own bytes (`decode_stable`).
-/

namespace NetlinkRoute

open PacketUtils Emitter

/-- `NeighbourTableHeader`. -/
structure NeighbourTableHeader where
  family : AddressFamily
deriving DecidableEq

section

variable [Host]

/-- `NeighbourTableMessageBuffer`. The three bytes behind the family are
no field. -/
def NeighbourTableHeader.codec : HeaderCodec NeighbourTableHeader where
  len := 4
  parse buf := do return { family := AddressFamily.codec.ofNum (← getU8 buf 0) }
  layout h := [(0, [AddressFamily.codec.toNum h.family])]
  WellFormed h := AddressFamily.codec.Canonical h.family
  ascending h := by simp [Ascending]
  parse_layout h rest hw := by simp [gapped, hw.ofNum_toNum]
  parse_of_le b hb := by
    simp (disch := exact fits_of_le hb rfl) only [getU8_of_le, Outcome.ok_bind, Outcome.pure_eq]
    exact ⟨_, rfl, by simp⟩

/-- `NeighbourTableConfig`. -/
structure NeighbourTableConfig where
  keyLen : UInt16
  entrySize : UInt16
  entries : UInt32
  lastFlush : UInt32
  lastRand : UInt32
  hashRand : UInt32
  hashMask : UInt32
  hashChainGc : UInt32
  proxyQlen : UInt32
deriving DecidableEq

/-- `NeighbourTableConfigBuffer`: getters and setters of `NeighbourTableConfig`. -/
def NeighbourTableConfig.codec : StructCodec NeighbourTableConfig where
  len := 32
  parse buf := do
    return {
      keyLen := ← getU16 buf 0, entrySize := ← getU16 buf 2, entries := ← getU32 buf 4,
      lastFlush := ← getU32 buf 8, lastRand := ← getU32 buf 12, hashRand := ← getU32 buf 16,
      hashMask := ← getU32 buf 20, hashChainGc := ← getU32 buf 24, proxyQlen := ← getU32 buf 28 }
  layout v := [
    (0, ne.u16 v.keyLen), (2, ne.u16 v.entrySize), (4, ne.u32 v.entries), (8, ne.u32 v.lastFlush),
    (12, ne.u32 v.lastRand), (16, ne.u32 v.hashRand), (20, ne.u32 v.hashMask),
    (24, ne.u32 v.hashChainGc), (28, ne.u32 v.proxyQlen)]
  tiles v := by simp [Tiles]
  length_layout v := by simp
  parse_layout v rest := by simp [getU16_append, getU32_append]
  parse_of_le b hb := by
    simp (disch := exact fits_of_le hb rfl) only [getU16_of_le, getU32_of_le, Outcome.ok_bind,
      Outcome.pure_eq]
    exact ⟨_, rfl⟩

/-- `NeighbourTableStats`. -/
structure NeighbourTableStats where
  allocs : UInt64
  destroys : UInt64
  hashGrows : UInt64
  resFailed : UInt64
  lookups : UInt64
  hits : UInt64
  multicastProbesReceived : UInt64
  unicastProbesReceived : UInt64
  periodicGcRuns : UInt64
  forcedGcRuns : UInt64
  tableFulls : UInt64
deriving DecidableEq

/-- `NeighbourTableStatsBuffer`: getters and setters of `NeighbourTableStats`. -/
def NeighbourTableStats.codec : StructCodec NeighbourTableStats where
  len := 88
  parse buf := do
    return {
      allocs := ← getU64 buf 0, destroys := ← getU64 buf 8, hashGrows := ← getU64 buf 16,
      resFailed := ← getU64 buf 24, lookups := ← getU64 buf 32, hits := ← getU64 buf 40,
      multicastProbesReceived := ← getU64 buf 48, unicastProbesReceived := ← getU64 buf 56,
      periodicGcRuns := ← getU64 buf 64, forcedGcRuns := ← getU64 buf 72,
      tableFulls := ← getU64 buf 80 }
  layout v := [
    (0, ne.u64 v.allocs), (8, ne.u64 v.destroys), (16, ne.u64 v.hashGrows),
    (24, ne.u64 v.resFailed), (32, ne.u64 v.lookups), (40, ne.u64 v.hits),
    (48, ne.u64 v.multicastProbesReceived), (56, ne.u64 v.unicastProbesReceived),
    (64, ne.u64 v.periodicGcRuns), (72, ne.u64 v.forcedGcRuns), (80, ne.u64 v.tableFulls)]
  tiles v := by simp [Tiles]
  length_layout v := by simp
  parse_layout v rest := by simp [getU64_append]
  parse_of_le b hb := by
    simp (disch := exact fits_of_le hb rfl) only [getU64_of_le, Outcome.ok_bind, Outcome.pure_eq]
    exact ⟨_, rfl⟩

end

section

variable [PacketUtils]

abbrev NDTPA_IFINDEX : UInt16 := 1
abbrev NDTPA_REFCNT : UInt16 := 2
abbrev NDTPA_REACHABLE_TIME : UInt16 := 3
abbrev NDTPA_BASE_REACHABLE_TIME : UInt16 := 4
abbrev NDTPA_RETRANS_TIME : UInt16 := 5
abbrev NDTPA_GC_STALETIME : UInt16 := 6
abbrev NDTPA_DELAY_PROBE_TIME : UInt16 := 7
abbrev NDTPA_QUEUE_LEN : UInt16 := 8
abbrev NDTPA_APP_PROBES : UInt16 := 9
abbrev NDTPA_UCAST_PROBES : UInt16 := 10
abbrev NDTPA_MCAST_PROBES : UInt16 := 11
abbrev NDTPA_ANYCAST_DELAY : UInt16 := 12
abbrev NDTPA_PROXY_DELAY : UInt16 := 13
abbrev NDTPA_PROXY_QLEN : UInt16 := 14
abbrev NDTPA_LOCKTIME : UInt16 := 15
abbrev NDTPA_QUEUE_LENBYTES : UInt16 := 16
abbrev NDTPA_MCAST_REPROBES : UInt16 := 17
abbrev NDTPA_INTERVAL_PROBE_TIME_MS : UInt16 := 19

/-- The attributes of `NDTA_PARMS`. -/
inductive NeighbourTableParameter where
  | ifindex (v : UInt32)
  | referenceCount (v : UInt32)
  | reachableTime (v : UInt64)
  | baseReachableTime (v : UInt64)
  | retransTime (v : UInt64)
  | gcStaletime (v : UInt64)
  | delayProbeTime (v : UInt64)
  | queueLen (v : UInt32)
  | appProbes (v : UInt32)
  | ucastProbes (v : UInt32)
  | mcastProbes (v : UInt32)
  | anycastDelay (v : UInt64)
  | proxyDelay (v : UInt64)
  | proxyQlen (v : UInt32)
  | locktime (v : UInt64)
  | queueLenbytes (v : UInt32)
  | mcastReprobes (v : UInt32)
  | intervalProbeTimeMs (v : UInt64)
  | other (v : DefaultNla)
deriving DecidableEq

namespace NeighbourTableParameter

def kind : NeighbourTableParameter → UInt16
  | .ifindex _ => NDTPA_IFINDEX
  | .referenceCount _ => NDTPA_REFCNT
  | .reachableTime _ => NDTPA_REACHABLE_TIME
  | .baseReachableTime _ => NDTPA_BASE_REACHABLE_TIME
  | .retransTime _ => NDTPA_RETRANS_TIME
  | .gcStaletime _ => NDTPA_GC_STALETIME
  | .delayProbeTime _ => NDTPA_DELAY_PROBE_TIME
  | .queueLen _ => NDTPA_QUEUE_LEN
  | .appProbes _ => NDTPA_APP_PROBES
  | .ucastProbes _ => NDTPA_UCAST_PROBES
  | .mcastProbes _ => NDTPA_MCAST_PROBES
  | .anycastDelay _ => NDTPA_ANYCAST_DELAY
  | .proxyDelay _ => NDTPA_PROXY_DELAY
  | .proxyQlen _ => NDTPA_PROXY_QLEN
  | .locktime _ => NDTPA_LOCKTIME
  | .queueLenbytes _ => NDTPA_QUEUE_LENBYTES
  | .mcastReprobes _ => NDTPA_MCAST_REPROBES
  | .intervalProbeTimeMs _ => NDTPA_INTERVAL_PROBE_TIME_MS
  | .other nla => nla.kind

def valueLen : NeighbourTableParameter → ℕ
  | .ifindex _ | .referenceCount _ | .queueLen _ | .appProbes _ | .ucastProbes _ | .mcastProbes _
  | .proxyQlen _ | .queueLenbytes _ | .mcastReprobes _ => 4
  | .reachableTime _ | .baseReachableTime _ | .retransTime _ | .gcStaletime _ | .delayProbeTime _
  | .anycastDelay _ | .proxyDelay _ | .locktime _ | .intervalProbeTimeMs _ => 8
  | .other nla => nla.valueLen

def emitValue : NeighbourTableParameter → Emitter
  | .ifindex v | .referenceCount v | .queueLen v | .appProbes v | .ucastProbes v | .mcastProbes v
  | .proxyQlen v | .queueLenbytes v | .mcastReprobes v => .put 0 (ne.u32 v)
  | .reachableTime v | .baseReachableTime v | .retransTime v | .gcStaletime v | .delayProbeTime v
  | .anycastDelay v | .proxyDelay v | .locktime v | .intervalProbeTimeMs v => .put 0 (ne.u64 v)
  | .other nla => nla.emitValue

/-- The attribute, as the attribute layer sees it. -/
def nla (a : NeighbourTableParameter) : Nla := ⟨a.valueLen, a.kind, a.emitValue⟩

def parse (buf : NlaBuffer) : Outcome NeighbourTableParameter := do
  let payload ← value buf
  let kind ← PacketUtils.kind buf
  select kind [
    (NDTPA_IFINDEX,
      .ifindex <$> (parseU32 payload).context ("invalid NDTPA_IFINDEX value " ++ debug payload)),
    (NDTPA_REFCNT,
      .referenceCount <$>
        (parseU32 payload).context ("invalid NDTPA_REFCNT value " ++ debug payload)),
    (NDTPA_REACHABLE_TIME,
      .reachableTime <$>
        (parseU64 payload).context ("invalid NDTPA_REACHABLE_TIME value " ++ debug payload)),
    (NDTPA_BASE_REACHABLE_TIME,
      .baseReachableTime <$>
        (parseU64 payload).context ("invalid NDTPA_BASE_REACHABLE_TIME value " ++ debug payload)),
    (NDTPA_RETRANS_TIME,
      .retransTime <$>
        (parseU64 payload).context ("invalid NDTPA_RETRANS_TIME value " ++ debug payload)),
    (NDTPA_GC_STALETIME,
      .gcStaletime <$>
        (parseU64 payload).context ("invalid NDTPA_GC_STALE_TIME value " ++ debug payload)),
    (NDTPA_DELAY_PROBE_TIME,
      .delayProbeTime <$>
        (parseU64 payload).context ("invalid NDTPA_DELAY_PROBE_TIME value " ++ debug payload)),
    (NDTPA_QUEUE_LEN,
      .queueLen <$>
        (parseU32 payload).context ("invalid NDTPA_QUEUE_LEN value " ++ debug payload)),
    (NDTPA_APP_PROBES,
      .appProbes <$>
        (parseU32 payload).context ("invalid NDTPA_APP_PROBES value " ++ debug payload)),
    (NDTPA_UCAST_PROBES,
      .ucastProbes <$>
        (parseU32 payload).context ("invalid NDTPA_UCAST_PROBES value " ++ debug payload)),
    (NDTPA_MCAST_PROBES,
      .mcastProbes <$>
        (parseU32 payload).context ("invalid NDTPA_MCAST_PROBES value " ++ debug payload)),
    (NDTPA_ANYCAST_DELAY,
      .anycastDelay <$>
        (parseU64 payload).context ("invalid NDTPA_ANYCAST_DELAY value " ++ debug payload)),
    (NDTPA_PROXY_DELAY,
      .proxyDelay <$>
        (parseU64 payload).context ("invalid NDTPA_PROXY_DELAY value " ++ debug payload)),
    (NDTPA_PROXY_QLEN,
      .proxyQlen <$>
        (parseU32 payload).context ("invalid NDTPA_PROXY_QLEN value " ++ debug payload)),
    (NDTPA_LOCKTIME,
      .locktime <$> (parseU64 payload).context ("invalid NDTPA_LOCKTIME value " ++ debug payload)),
    (NDTPA_QUEUE_LENBYTES,
      .queueLenbytes <$>
        (parseU32 payload).context ("invalid NDTPA_QUEUE_LENBYTES value " ++ debug payload)),
    (NDTPA_MCAST_REPROBES,
      .mcastReprobes <$>
        (parseU32 payload).context ("invalid NDTPA_MCAST_PROBES value " ++ debug payload)),
    (NDTPA_INTERVAL_PROBE_TIME_MS,
      .intervalProbeTimeMs <$> (parseU64 payload).context
        ("invalid NDTPA_INTERVAL_PROBE_TIME_MS value " ++ debug payload))]
    (.other <$> (defaultNla buf).context ("invalid NDTA_PARMS attribute " ++ debug payload))

end NeighbourTableParameter

abbrev NDTA_NAME : UInt16 := 1
abbrev NDTA_THRESH1 : UInt16 := 2
abbrev NDTA_THRESH2 : UInt16 := 3
abbrev NDTA_THRESH3 : UInt16 := 4
abbrev NDTA_CONFIG : UInt16 := 5
abbrev NDTA_PARMS : UInt16 := 6
abbrev NDTA_STATS : UInt16 := 7
abbrev NDTA_GC_INTERVAL : UInt16 := 8

/-- The attributes of a neighbour table. -/
inductive NeighbourTableAttribute where
  | parms (v : List NeighbourTableParameter)
  | name (v : String)
  | threshold1 (v : UInt32)
  | threshold2 (v : UInt32)
  | threshold3 (v : UInt32)
  | config (v : NeighbourTableConfig)
  | stats (v : NeighbourTableStats)
  | gcInterval (v : UInt64)
  | other (v : DefaultNla)
deriving DecidableEq

namespace NeighbourTableAttribute

def kind : NeighbourTableAttribute → UInt16
  | .name _ => NDTA_NAME
  | .config _ => NDTA_CONFIG
  | .stats _ => NDTA_STATS
  | .parms _ => NDTA_PARMS
  | .gcInterval _ => NDTA_GC_INTERVAL
  | .threshold1 _ => NDTA_THRESH1
  | .threshold2 _ => NDTA_THRESH2
  | .threshold3 _ => NDTA_THRESH3
  | .other attr => attr.kind

def valueLen : NeighbourTableAttribute → ℕ
  | .parms v => nlasLen (v.map NeighbourTableParameter.nla)
  | .stats _ => NeighbourTableStats.codec.len
  | .config _ => NeighbourTableConfig.codec.len
  | .name s => (utf8 s).length + 1
  | .threshold1 _ | .threshold2 _ | .threshold3 _ => 4
  | .gcInterval _ => 8
  | .other attr => attr.valueLen

def emitValue : NeighbourTableAttribute → Emitter
  | .parms v => emitNlas (v.map NeighbourTableParameter.nla)
  | .stats v => NeighbourTableStats.codec.emit v
  | .config v => NeighbourTableConfig.codec.emit v
  | .name string => emitStringNul string
  | .gcInterval value => .put 0 (ne.u64 value)
  | .threshold1 value | .threshold2 value | .threshold3 value => .put 0 (ne.u32 value)
  | .other attr => attr.emitValue

/-- The attribute, as the attribute layer sees it. -/
def nla (a : NeighbourTableAttribute) : Nla := ⟨a.valueLen, a.kind, a.emitValue⟩

def parse (buf : NlaBuffer) : Outcome NeighbourTableAttribute := do
  let payload ← value buf
  let kind ← PacketUtils.kind buf
  select kind [
    (NDTA_NAME, .name <$> (parseString payload).context "invalid NDTA_NAME value"),
    (NDTA_CONFIG,
      .config <$> NeighbourTableConfig.codec.parseChecked "NeighbourTableConfigBuffer"
        ("invalid NDTA_CONFIG " ++ debug payload) payload),
    (NDTA_STATS,
      .stats <$> NeighbourTableStats.codec.parseChecked "NeighbourTableStatsBuffer"
        ("invalid NDTA_STATS " ++ debug payload) payload),
    (NDTA_PARMS,
      .parms <$> (parseNlas "invalid NDTA_PARMS attribute" "invalid NDTA_PARMS attribute"
        NeighbourTableParameter.parse payload).context ("invalid NDTA_PARMS " ++ debug payload)),
    (NDTA_GC_INTERVAL,
      .gcInterval <$> (parseU64 payload).context "invalid NDTA_GC_INTERVAL value"),
    (NDTA_THRESH1, .threshold1 <$> (parseU32 payload).context "invalid NDTA_THRESH1 value"),
    (NDTA_THRESH2, .threshold2 <$> (parseU32 payload).context "invalid NDTA_THRESH2 value"),
    (NDTA_THRESH3, .threshold3 <$> (parseU32 payload).context "invalid NDTA_THRESH3 value")]
    (.other <$> (defaultNla buf).context ("unknown NLA type " ++ toString kind))

end NeighbourTableAttribute

/-- `NeighbourTableMessage`. -/
abbrev NeighbourTableMessage := Message NeighbourTableHeader NeighbourTableAttribute

/-- How a neighbour table message is decoded and written. -/
def NeighbourTableMessage.format : MessageFormat NeighbourTableHeader NeighbourTableAttribute where
  buffer := "NeighbourTableMessageBuffer"
  header := NeighbourTableHeader.codec
  nla := NeighbourTableAttribute.nla
  parseAttributes _ := parseEach NeighbourTableAttribute.parse
  headerErr := some "failed to parse neighbour table message header"
  attributesErr := some "failed to parse neighbour table message NLAs"

/-! ## Written and read back -/

namespace NeighbourTableParameter

variable {a : NeighbourTableParameter} {nb : NlaBuffer}

/-- The kinds its parser names. -/
def kinds : List UInt16 :=
  [NDTPA_IFINDEX, NDTPA_REFCNT, NDTPA_REACHABLE_TIME, NDTPA_BASE_REACHABLE_TIME,
    NDTPA_RETRANS_TIME, NDTPA_GC_STALETIME, NDTPA_DELAY_PROBE_TIME, NDTPA_QUEUE_LEN,
    NDTPA_APP_PROBES, NDTPA_UCAST_PROBES, NDTPA_MCAST_PROBES, NDTPA_ANYCAST_DELAY,
    NDTPA_PROXY_DELAY, NDTPA_PROXY_QLEN, NDTPA_LOCKTIME, NDTPA_QUEUE_LENBYTES,
    NDTPA_MCAST_REPROBES, NDTPA_INTERVAL_PROBE_TIME_MS]

/-- The values that come back from their own bytes. -/
def WellFormed : NeighbourTableParameter → Prop
  | .other n => n.Unknown kinds
  | _ => True

/-- A well-formed parameter of a table comes back. -/
theorem roundTrips (h : a.WellFormed) : RoundTrips parse a.nla a := by
  cases a with
  | other n =>
    refine (writes_copy rfl).roundTrips fun nb hc => ?_
    rw [parse, hc.bind, select_default (by exact h), hc.defaultNla]
    rfl
  | reachableTime v | baseReachableTime v | retransTime v | gcStaletime v | delayProbeTime v
  | anycastDelay v | proxyDelay v | locktime v | intervalProbeTimeMs v =>
    refine (writes_put (length_u64 _ v)).roundTrips fun nb hc => ?_
    simp only [nla, kind] at hc
    rw [parse, hc.bind, select_of_find rfl]
    simp
  | _ v =>
    refine (writes_put (length_u32 _ v)).roundTrips fun nb hc => ?_
    simp only [nla, kind] at hc
    rw [parse, hc.bind, select_of_find rfl]
    simp

/-- The parser of parameters gives well-formed ones only. -/
theorem holds_parse (hv : NlaValid nb.buffer) : (parse nb).Holds WellFormed := by
  rw [parse, hv.carries.bind]
  refine holds_select ?_ fun hk => ?_
  · simp [WellFormed]
  · rw [hv.carries.defaultNla]
    exact (Outcome.holds_ok _).2 hk

theorem parse_ne_panic (hv : NlaValid nb.buffer) : parse nb ≠ .panic := by
  rw [parse, hv.carries.bind]
  refine select_ne_panic ?_ ?_
  · simp
  · simp [hv.carries.defaultNla]

end NeighbourTableParameter

namespace NeighbourTableAttribute

variable {a : NeighbourTableAttribute} {nb : NlaBuffer}

/-- The kinds its parser names. -/
def kinds : List UInt16 :=
  [NDTA_NAME, NDTA_CONFIG, NDTA_STATS, NDTA_PARMS, NDTA_GC_INTERVAL, NDTA_THRESH1, NDTA_THRESH2,
    NDTA_THRESH3]

/-- The values that come back from their own bytes. -/
def WellFormed : NeighbourTableAttribute → Prop
  | .parms l => ∀ p ∈ l, p.WellFormed
  | .other n => n.Unknown kinds
  | _ => True

/-- A well-formed attribute of a table comes back, its parameters within
their length word. -/
theorem roundTrips (h : a.WellFormed) (hlen : a.valueLen ≤ 65531) : RoundTrips parse a.nla a := by
  cases a with
  | parms l =>
    obtain ⟨out, hout, hread⟩ := exists_readsAs (r := id) (t := NeighbourTableParameter.nla)
      (fun p hp _ => NeighbourTableParameter.roundTrips (h p hp)) hlen
    exact .of_arm hout NDTA_PARMS rfl rfl (by simp [hread.parseNlas_eq])
  | name s => exact writes_emitStringNul.roundTrips_arm NDTA_NAME rfl rfl (by simp)
  | config v =>
    exact NeighbourTableConfig.codec.writes_emit.roundTrips_arm NDTA_CONFIG rfl rfl
      (by simp [parseChecked_bytes])
  | stats v =>
    exact NeighbourTableStats.codec.writes_emit.roundTrips_arm NDTA_STATS rfl rfl
      (by simp [parseChecked_bytes])
  | gcInterval v => exact writes_u64.roundTrips_arm NDTA_GC_INTERVAL rfl rfl (by simp)
  | threshold1 v => exact writes_u32.roundTrips_arm NDTA_THRESH1 rfl rfl (by simp)
  | threshold2 v => exact writes_u32.roundTrips_arm NDTA_THRESH2 rfl rfl (by simp)
  | threshold3 v => exact writes_u32.roundTrips_arm NDTA_THRESH3 rfl rfl (by simp)
  | other n => exact .of_default h

/-- The parser of a table gives well-formed attributes only. -/
theorem holds_parse (hv : NlaValid nb.buffer) : (parse nb).Holds WellFormed := by
  rw [parse, hv.carries.bind]
  refine holds_select ?_ fun hk => ?_
  · have hparms : ∀ e e', (parseNlas e e' NeighbourTableParameter.parse (nlaValue nb.buffer)).Holds
        fun l => ∀ p ∈ l, p.WellFormed := fun _ _ =>
      holds_parseNlas fun nb' hnb' => NeighbourTableParameter.holds_parse (valid_of_mem_nlas hnb')
    simp [WellFormed, hparms]
  · rw [hv.carries.defaultNla]
    exact (Outcome.holds_ok _).2 hk

theorem parse_ne_panic (hv : NlaValid nb.buffer) : parse nb ≠ .panic := by
  rw [parse, hv.carries.bind]
  refine select_ne_panic ?_ ?_
  · have hparms : ∀ e e', parseNlas e e' NeighbourTableParameter.parse (nlaValue nb.buffer) ≠
        .panic := fun _ _ =>
      parseNlas_ne_panic fun nb' hnb' =>
        NeighbourTableParameter.parse_ne_panic (valid_of_mem_nlas hnb')
    simp [hparms]
  · simp [hv.carries.defaultNla]

end NeighbourTableAttribute

namespace NeighbourTableMessage

variable {m : NeighbourTableMessage} {b : Bytes}

/-- The decoder of a table does not panic. -/
theorem decode_ne_panic : format.decode b ≠ .panic :=
  format.decode_ne_panic_of rfl fun _ _ hv => NeighbourTableAttribute.parse_ne_panic hv

/-- **What was decoded is written back to the same message.** -/
theorem decode_stable (h : format.decode b = .ok m) (hs : format.Sized m) :
    ∃ out, Fills (format.emit m) (format.bufferLen m) out ∧ format.decode out = .ok m :=
  format.decode_stable_of rfl (fun _ _ a hv hp hlen =>
    NeighbourTableAttribute.roundTrips (NeighbourTableAttribute.holds_parse hv a hp) hlen) h hs

/-- The bytes behind the family stay what they were. -/
theorem not_uniform_emit : ¬ Uniform (format.emit m) (format.bufferLen m) := by
  refine format.not_uniform_emit (i := 1) (by simp [format, NeighbourTableHeader.codec]) ?_
  simp [format, NeighbourTableHeader.codec]

end NeighbourTableMessage

end

end NetlinkRoute
