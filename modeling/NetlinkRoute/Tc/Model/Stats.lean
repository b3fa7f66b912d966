import NetlinkRoute.Common.Message
import NetlinkRoute.Common.Enum
import NetlinkRoute.Family
/-!
# Traffic control — statistics

Which structure the statistics of a discipline are read as, its name
decides, found in another attribute. Some of the structures are read
through buffers that check their length, and some are not.
-/

namespace NetlinkRoute

open PacketUtils Emitter

/-! ## Structures -/

/-- `TcStats`. -/
structure TcStats where
  bytes : UInt64
  packets : UInt32
  drops : UInt32
  overlimits : UInt32
  bps : UInt32
  pps : UInt32
  qlen : UInt32
  backlog : UInt32
deriving DecidableEq

/-- `TcStatsBasic`. -/
structure TcStatsBasic where
  bytes : UInt64
  packets : UInt32
deriving DecidableEq

/-- `TcStatsQueue`. -/
structure TcStatsQueue where
  qlen : UInt32
  backlog : UInt32
  drops : UInt32
  requeues : UInt32
  overlimits : UInt32
deriving DecidableEq

/-- `TcFqCodelQdStats`. -/
structure TcFqCodelQdStats where
  maxpacket : UInt32
  dropOverlimit : UInt32
  ecnMark : UInt32
  newFlowCount : UInt32
  newFlowsLen : UInt32
  oldFlowsLen : UInt32
  ceMark : UInt32
  memoryUsage : UInt32
  dropOvermemory : UInt32
deriving DecidableEq

/-- `TcFqCodelClStats`. -/
structure TcFqCodelClStats where
  deficit : Int32
  ldelay : UInt32
  count : UInt32
  lastcount : UInt32
  dropping : UInt32
  dropNext : Int32
deriving DecidableEq

section Structs

variable [Host]

/-- `TcStatsBuffer`. The last four bytes align the structure and belong to
no field. -/
def TcStats.codec : HeaderCodec TcStats where
  len := 40
  parse buf := do
    return {
      bytes := ← getU64 buf 0, packets := ← getU32 buf 8, drops := ← getU32 buf 12,
      overlimits := ← getU32 buf 16, bps := ← getU32 buf 20, pps := ← getU32 buf 24,
      qlen := ← getU32 buf 28, backlog := ← getU32 buf 32 }
  layout v := [
    (0, ne.u64 v.bytes), (8, ne.u32 v.packets), (12, ne.u32 v.drops), (16, ne.u32 v.overlimits),
    (20, ne.u32 v.bps), (24, ne.u32 v.pps), (28, ne.u32 v.qlen), (32, ne.u32 v.backlog)]
  WellFormed _ := True
  ascending v := by simp [Ascending]
  parse_layout v rest _ := by simp [gapped, getU32_append]
  parse_of_le b hb := by
    simp (disch := exact fits_of_le hb rfl) only [getU32_of_le, getU64_of_le, Outcome.ok_bind,
      Outcome.pure_eq]
    exact ⟨_, rfl, trivial⟩

/-- `TcStatsBasicBuffer`. It has four such bytes too. -/
def TcStatsBasic.codec : HeaderCodec TcStatsBasic where
  len := 16
  parse buf := do return { bytes := ← getU64 buf 0, packets := ← getU32 buf 8 }
  layout v := [(0, ne.u64 v.bytes), (8, ne.u32 v.packets)]
  WellFormed _ := True
  ascending v := by simp [Ascending]
  parse_layout v rest _ := by simp [gapped, getU32_append]
  parse_of_le b hb := by
    simp (disch := exact fits_of_le hb rfl) only [getU32_of_le, getU64_of_le, Outcome.ok_bind,
      Outcome.pure_eq]
    exact ⟨_, rfl, trivial⟩

/-- `TcStatsQueueBuffer`. -/
def TcStatsQueue.codec : StructCodec TcStatsQueue where
  len := 20
  parse buf := do
    return {
      qlen := ← getU32 buf 0, backlog := ← getU32 buf 4, drops := ← getU32 buf 8,
      requeues := ← getU32 buf 12, overlimits := ← getU32 buf 16 }
  layout v := [
    (0, ne.u32 v.qlen), (4, ne.u32 v.backlog), (8, ne.u32 v.drops), (12, ne.u32 v.requeues),
    (16, ne.u32 v.overlimits)]
  tiles v := by simp [Tiles]
  length_layout v := by simp
  parse_layout v rest := by simp [getU32_append]
  parse_of_le b hb := by
    simp (disch := exact fits_of_le hb rfl) only [getU32_of_le, Outcome.ok_bind, Outcome.pure_eq]
    exact ⟨_, rfl⟩

/-- `TcFqCodelQdStatsBuffer`. -/
def TcFqCodelQdStats.codec : StructCodec TcFqCodelQdStats where
  len := 36
  parse buf := do
    return {
      maxpacket := ← getU32 buf 0, dropOverlimit := ← getU32 buf 4, ecnMark := ← getU32 buf 8,
      newFlowCount := ← getU32 buf 12, newFlowsLen := ← getU32 buf 16,
      oldFlowsLen := ← getU32 buf 20, ceMark := ← getU32 buf 24, memoryUsage := ← getU32 buf 28,
      dropOvermemory := ← getU32 buf 32 }
  layout v := [
    (0, ne.u32 v.maxpacket), (4, ne.u32 v.dropOverlimit), (8, ne.u32 v.ecnMark),
    (12, ne.u32 v.newFlowCount), (16, ne.u32 v.newFlowsLen), (20, ne.u32 v.oldFlowsLen),
    (24, ne.u32 v.ceMark), (28, ne.u32 v.memoryUsage), (32, ne.u32 v.dropOvermemory)]
  tiles v := by simp [Tiles]
  length_layout v := by simp
  parse_layout v rest := by simp [getU32_append]
  parse_of_le b hb := by
    simp (disch := exact fits_of_le hb rfl) only [getU32_of_le, Outcome.ok_bind, Outcome.pure_eq]
    exact ⟨_, rfl⟩

/-- `TcFqCodelClStatsBuffer`. -/
def TcFqCodelClStats.codec : StructCodec TcFqCodelClStats where
  len := 24
  parse buf := do
    return {
      deficit := ← getI32 buf 0, ldelay := ← getU32 buf 4, count := ← getU32 buf 8,
      lastcount := ← getU32 buf 12, dropping := ← getU32 buf 16, dropNext := ← getI32 buf 20 }
  layout v := [
    (0, ne.i32 v.deficit), (4, ne.u32 v.ldelay), (8, ne.u32 v.count), (12, ne.u32 v.lastcount),
    (16, ne.u32 v.dropping), (20, ne.i32 v.dropNext)]
  tiles v := by simp [Tiles]
  length_layout v := by simp
  parse_layout v rest := by simp [getU32_append, getI32_append]
  parse_of_le b hb := by
    simp (disch := exact fits_of_le hb rfl) only [getU32_of_le, getI32_of_le, Outcome.ok_bind,
      Outcome.pure_eq]
    exact ⟨_, rfl⟩

end Structs

/-! ## Statistics of one discipline -/

/-- `TcQdiscFqCodel::KIND`. -/
abbrev TcQdiscFqCodel.KIND : String := "fq_codel"

abbrev TC_FQ_CODEL_QD_STATS_LEN : ℕ := 36
abbrev TC_FQ_CODEL_CL_STATS_LEN : ℕ := 24
abbrev TCA_FQ_CODEL_XSTATS_QDISC : UInt32 := 0
abbrev TCA_FQ_CODEL_XSTATS_CLASS : UInt32 := 1

/-- `TcFqCodelXstats`. -/
inductive TcFqCodelXstats where
  | qdisc (v : TcFqCodelQdStats)
  | class_ (v : TcFqCodelClStats)
  | other (v : Bytes)
deriving DecidableEq

/-- `TcXstats`. -/
inductive TcXstats where
  | fqCodel (v : TcFqCodelXstats)
  | other (v : Bytes)
deriving DecidableEq

abbrev TCA_STATS_BASIC : UInt16 := 1
abbrev TCA_STATS_QUEUE : UInt16 := 3
abbrev TCA_STATS_APP : UInt16 := 4
abbrev TCA_STATS_BASIC_HW : UInt16 := 7

/-- `TcStats2`. -/
inductive TcStats2 where
  | app (v : TcXstats)
  | basic (v : TcStatsBasic)
  | queue (v : TcStatsQueue)
  | basicHw (v : TcStatsBasic)
  | other (v : DefaultNla)
deriving DecidableEq

variable [PacketUtils]

namespace TcFqCodelXstats

def bufferLen : TcFqCodelXstats → ℕ
  | .qdisc _ => TC_FQ_CODEL_QD_STATS_LEN + 4
  | .class_ _ => TC_FQ_CODEL_CL_STATS_LEN + 4
  | .other v => v.length

def emit : TcFqCodelXstats → Emitter
  | .qdisc v => (put 0 (ne.u32 TCA_FQ_CODEL_XSTATS_QDISC)).andThen
      (onTail 4 (TcFqCodelQdStats.codec.emit v))
  | .class_ v => (put 0 (ne.u32 TCA_FQ_CODEL_XSTATS_CLASS)).andThen
      (onTail 4 (TcFqCodelClStats.codec.emit v))
  | .other v => .copy v

/-- The first word says which structure follows. Neither is checked for
its length. -/
def parse (buf : Bytes) : Outcome TcFqCodelXstats :=
  if buf.length < 4 then .fail ("Invalid TcFqCodelXstats " ++ debug buf)
  else do
    let bufType := ne.toU32 (← slice buf 0 4)
    select bufType [
      (TCA_FQ_CODEL_XSTATS_QDISC,
        .qdisc <$> (do TcFqCodelQdStats.codec.parse (← sliceFrom buf 4))),
      (TCA_FQ_CODEL_XSTATS_CLASS,
        .class_ <$> (do TcFqCodelClStats.codec.parse (← sliceFrom buf 4)))]
      (.ok (.other buf))

end TcFqCodelXstats

namespace TcXstats

def bufferLen : TcXstats → ℕ
  | .fqCodel v => v.bufferLen
  | .other v => v.length

def emit : TcXstats → Emitter
  | .fqCodel v => v.emit
  | .other v => .copy v

/-- `TcXstats::parse_with_param`: the kind decides. -/
def parseWithParam (buf : NlaBuffer) (kind : String) : Outcome TcXstats :=
  if kind = TcQdiscFqCodel.KIND then do .fqCodel <$> TcFqCodelXstats.parse (← value buf)
  else .other <$> value buf

end TcXstats

namespace TcStats2

def kind : TcStats2 → UInt16
  | .app _ => TCA_STATS_APP
  | .basic _ => TCA_STATS_BASIC
  | .queue _ => TCA_STATS_QUEUE
  | .basicHw _ => TCA_STATS_BASIC_HW
  | .other nla => nla.kind

def valueLen : TcStats2 → ℕ
  | .app v => v.bufferLen
  | .basic _ => TcStatsBasic.codec.len
  | .queue _ => TcStatsQueue.codec.len
  | .basicHw _ => TcStatsBasic.codec.len
  | .other nla => nla.valueLen

def emitValue : TcStats2 → Emitter
  | .app v => v.emit
  | .basic v => TcStatsBasic.codec.emit v
  | .queue v => TcStatsQueue.codec.emit v
  | .basicHw v => TcStatsBasic.codec.emit v
  | .other nla => nla.emitValue

/-- The attribute, as the attribute layer sees it. -/
def nla (a : TcStats2) : Nla := ⟨a.valueLen, a.kind, a.emitValue⟩

/-- `TcStats2::parse_with_param`. The structures are read through buffers
that are not checked. -/
def parseWithParam (buf : NlaBuffer) (kind : String) : Outcome TcStats2 := do
  let payload ← value buf
  let nlaKind ← PacketUtils.kind buf
  select nlaKind [
    (TCA_STATS_APP, .app <$> TcXstats.parseWithParam buf kind),
    (TCA_STATS_BASIC, .basic <$> TcStatsBasic.codec.parse payload),
    (TCA_STATS_QUEUE, .queue <$> TcStatsQueue.codec.parse payload),
    (TCA_STATS_BASIC_HW, .basicHw <$> TcStatsBasic.codec.parse payload)]
    (.other <$> defaultNla buf)

end TcStats2

end NetlinkRoute
