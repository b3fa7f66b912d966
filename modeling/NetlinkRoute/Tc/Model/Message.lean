import NetlinkRoute.Tc.Model.Options
/-!
# Traffic control — messages

A message about disciplines and filters names its kind in one of its
attributes, and what follows is read as that kind says; before the first
name the kind is empty, and a later name takes its place. A message about
actions is a list of them.
-/

namespace NetlinkRoute

open PacketUtils Emitter

/-! ## Headers -/

/-- `TcHeader`. -/
structure TcHeader where
  family : AddressFamily
  index : Int32
  handle : TcHandle
  parent : TcHandle
  info : UInt32
deriving DecidableEq

/-- `TcMessageBuffer`. The padding behind the family has no setter call. -/
def TcHeader.codec [Host] : HeaderCodec TcHeader where
  len := 20
  parse buf := do
    return {
      family := AddressFamily.codec.ofNum (← getU8 buf 0)
      index := ← getI32 buf 4
      handle := TcHandle.ofU32 (← getU32 buf 8)
      parent := TcHandle.ofU32 (← getU32 buf 12)
      info := ← getU32 buf 16 }
  layout h := [
    (0, [AddressFamily.codec.toNum h.family]), (4, ne.i32 h.index), (8, ne.u32 h.handle.toU32),
    (12, ne.u32 h.parent.toU32), (16, ne.u32 h.info)]
  WellFormed h := AddressFamily.codec.Canonical h.family
  ascending h := by simp [Ascending]
  parse_layout h rest hw := by
    simp [gapped, zeros, List.replicate, getU32_append, hw.ofNum_toNum]
  parse_of_le b hb := by
    simp (disch := exact fits_of_le hb rfl) only [getU8_of_le, getU32_of_le, getI32_of_le,
      Outcome.ok_bind,
      Outcome.pure_eq]
    exact ⟨_, rfl, by simp⟩

/-- `TcActionMessageHeader`. -/
structure TcActionMessageHeader where
  family : AddressFamily
deriving DecidableEq

/-- `TcActionMessageBuffer`. Only the family is set. -/
def TcActionMessageHeader.codec [Host] : HeaderCodec TcActionMessageHeader where
  len := 4
  parse buf := do return { family := AddressFamily.codec.ofNum (← getU8 buf 0) }
  layout h := [(0, [AddressFamily.codec.toNum h.family])]
  WellFormed h := AddressFamily.codec.Canonical h.family
  ascending h := by simp [Ascending]
  parse_layout h rest hw := by simp [gapped, hw.ofNum_toNum]
  parse_of_le b hb := by
    simp (disch := exact fits_of_le hb rfl) only [getU8_of_le, Outcome.ok_bind, Outcome.pure_eq]
    exact ⟨_, rfl, by simp⟩

/-! ## Disciplines and filters -/

abbrev TCA_KIND : UInt16 := 1
abbrev TCA_OPTIONS : UInt16 := 2
abbrev TCA_STATS : UInt16 := 3
abbrev TCA_XSTATS : UInt16 := 4
abbrev TCA_RATE : UInt16 := 5
abbrev TCA_FCNT : UInt16 := 6
abbrev TCA_STATS2 : UInt16 := 7
abbrev TCA_STAB : UInt16 := 8
abbrev TCA_DUMP_INVISIBLE : UInt16 := 10
abbrev TCA_CHAIN : UInt16 := 11
abbrev TCA_HW_OFFLOAD : UInt16 := 12

/-- `TcAttribute`. -/
inductive TcAttribute where
  | kind_ (v : String)
  | options (v : List TcOption)
  | stats (v : TcStats)
  | xstats (v : TcXstats)
  | rate (v : Bytes)
  | fcnt (v : Bytes)
  | stats2 (v : List TcStats2)
  | stab (v : Bytes)
  | chain (v : UInt32)
  | hwOffload (v : UInt8)
  | dumpInvisible (v : Bool)
  | other (v : DefaultNla)
deriving DecidableEq

/-- `TcMessage`. -/
abbrev TcMessage := Message TcHeader TcAttribute

variable [PacketUtils]

namespace TcAttribute

def kind : TcAttribute → UInt16
  | .kind_ _ => TCA_KIND
  | .options _ => TCA_OPTIONS
  | .stats _ => TCA_STATS
  | .xstats _ => TCA_XSTATS
  | .rate _ => TCA_RATE
  | .fcnt _ => TCA_FCNT
  | .stats2 _ => TCA_STATS2
  | .stab _ => TCA_STAB
  | .chain _ => TCA_CHAIN
  | .hwOffload _ => TCA_HW_OFFLOAD
  | .dumpInvisible _ => TCA_DUMP_INVISIBLE
  | .other nla => nla.kind

def valueLen : TcAttribute → ℕ
  | .rate bytes | .fcnt bytes | .stab bytes => bytes.length
  | .chain _ => 4
  | .xstats v => v.bufferLen
  | .hwOffload _ => 1
  | .stats2 v => nlasLen (v.map TcStats2.nla)
  | .stats _ => TcStats.codec.len
  | .kind_ string => (utf8 string).length + 1
  | .options opt => nlasLen (opt.map TcOption.nla)
  | .dumpInvisible _ => 0
  | .other attr => attr.valueLen

def emitValue : TcAttribute → Emitter
  | .rate bytes | .fcnt bytes | .stab bytes => .copy bytes
  | .chain v => .put 0 (ne.u32 v)
  | .xstats v => v.emit
  | .hwOffload val => .put 0 [val]
  | .stats2 v => emitNlas (v.map TcStats2.nla)
  | .stats v => TcStats.codec.emit v
  | .kind_ string => emitStringNul string
  | .options opt => emitNlas (opt.map TcOption.nla)
  | .dumpInvisible _ => .skip
  | .other attr => attr.emitValue

/-- The attribute, as the attribute layer sees it. -/
def nla (a : TcAttribute) : Nla := ⟨a.valueLen, a.kind, a.emitValue⟩

/-- `TcAttribute::parse_with_param`. -/
def parseWithParam (buf : NlaBuffer) (kind : String) : Outcome TcAttribute := do
  let payload ← value buf
  let nlaKind ← PacketUtils.kind buf
  select nlaKind [
    (TCA_KIND, .kind_ <$> (parseString payload).context "invalid TCA_KIND"),
    (TCA_OPTIONS,
      .options <$> (VecTcOption.parseWithParam buf kind).context
        ("Invalid TCA_OPTIONS for kind: " ++ kind)),
    (TCA_STATS,
      .stats <$> (do
        let buf ← (checkedBuffer "TcStatsBuffer" TcStats.codec.len payload).context
          "invalid TCA_STATS"
        (TcStats.codec.parse buf).context "failed to parse TCA_STATS")),
    (TCA_XSTATS, .xstats <$> (TcXstats.parseWithParam buf kind).context "invalid TCA_XSTATS"),
    (TCA_RATE, .ok (.rate payload)),
    (TCA_FCNT, .ok (.fcnt payload)),
    (TCA_STATS2,
      .stats2 <$> parseNlas "invalid TCA_STATS2" ("failed to parse TCA_STATS2 for kind " ++ kind)
        (TcStats2.parseWithParam · kind) payload),
    (TCA_STAB, .ok (.stab payload)),
    (TCA_CHAIN, .chain <$> (parseU32 payload).context "failed to parse TCA_CHAIN"),
    (TCA_HW_OFFLOAD, .hwOffload <$> (parseU8 payload).context "failed to parse TCA_HW_OFFLOAD"),
    (TCA_DUMP_INVISIBLE, .ok (.dumpInvisible true))]
    (.other <$> (defaultNla buf).context "failed to parse tc nla")

/-- The kind that attributes behind this one are read with. -/
def nextKind (kind : String) : TcAttribute → String
  | .kind_ s => s
  | _ => kind

/-- One turn of the loop: an attribute, and the kind for the next one. -/
def step (kind : String) (nla : NlaBuffer) : Outcome (String × TcAttribute) := do
  let attr ← parseWithParam nla kind
  .ok (attr.nextKind kind, attr)

/-- `Vec<TcAttribute>::parse`. -/
def parseAll (payload : Bytes) : Outcome (List TcAttribute) :=
  forEachFrom (fun kind nla => do step kind (← nla)) "" (nlas payload)

end TcAttribute

namespace TcMessage

/-- What a message about disciplines and filters is made of. -/
def format : MessageFormat TcHeader TcAttribute where
  buffer := "TcMessageBuffer"
  header := TcHeader.codec
  nla := TcAttribute.nla
  parseAttributes _ := TcAttribute.parseAll
  headerErr := some "failed to parse tc message header"
  attributesErr := some "failed to parse tc message NLAs"

def bufferLen (m : TcMessage) : ℕ := format.bufferLen m

def emit (m : TcMessage) : Emitter := format.emit m

def parse (buf : Bytes) : Outcome TcMessage := format.parse buf

/-- `TcMessageBuffer::new_checked`, then `TcMessage::parse`. -/
def decode (b : Bytes) : Outcome TcMessage := format.decode b

end TcMessage

/-! ## Actions -/

abbrev TCA_ACT_TAB : UInt16 := 1
abbrev TCA_ROOT_FLAGS : UInt16 := 2
abbrev TCA_ROOT_COUNT : UInt16 := 3
abbrev TCA_ROOT_TIME_DELTA : UInt16 := 4
abbrev TCA_ROOT_EXT_WARN_MSG : UInt16 := 5

/-- `TcActionMessageFlagsWithSelector`. Every bit of a word is a flag. -/
structure TcActionMessageFlagsWithSelector where
  flags : UInt32
  selector : UInt32
deriving DecidableEq

/-- `TcActionMessageAttribute`. -/
inductive TcActionMessageAttribute where
  | actions (v : List TcAction)
  | flags (v : TcActionMessageFlagsWithSelector)
  | rootCount (v : UInt32)
  | rootTimeDelta (v : UInt32)
  | rootExtWarnMsg (v : String)
  | other (v : DefaultNla)
deriving DecidableEq

/-- `TcActionMessage`. -/
abbrev TcActionMessage := Message TcActionMessageHeader TcActionMessageAttribute

namespace TcActionMessageFlagsWithSelector

def emitValue (v : TcActionMessageFlagsWithSelector) : Emitter :=
  fields [(0, ne.u32 v.flags), (4, ne.u32 v.selector)]

def parse (buf : NlaBuffer) : Outcome TcActionMessageFlagsWithSelector := do
  let value ← PacketUtils.value buf
  if value.length ≠ 8 then .fail "invalid length"
  else do
    let flags := ne.toU32 (← slice value 0 4)
    let selector := ne.toU32 (← sliceFrom value 4)
    .ok { flags, selector }

end TcActionMessageFlagsWithSelector

namespace TcActionMessageAttribute

def kind : TcActionMessageAttribute → UInt16
  | .actions _ => TCA_ACT_TAB
  | .flags _ => TCA_ROOT_FLAGS
  | .rootCount _ => TCA_ROOT_COUNT
  | .rootTimeDelta _ => TCA_ROOT_TIME_DELTA
  | .rootExtWarnMsg _ => TCA_ROOT_EXT_WARN_MSG
  | .other nla => nla.kind

def valueLen : TcActionMessageAttribute → ℕ
  | .actions v => nlasLen (v.map TcAction.nla)
  | .flags _ => 8
  | .rootCount _ => 4
  | .rootTimeDelta _ => 4
  | .rootExtWarnMsg msg => (utf8 msg).length
  | .other nla => nla.valueLen

def emitValue : TcActionMessageAttribute → Emitter
  | .actions v => emitNlas (v.map TcAction.nla)
  | .flags v => v.emitValue
  | .rootCount count => .copy (ne.u32 count)
  | .rootTimeDelta delta => .copy (be.u32 delta)
  | .rootExtWarnMsg msg => .copy (utf8 msg)
  | .other nla => nla.emitValue

/-- The attribute, as the attribute layer sees it. -/
def nla (a : TcActionMessageAttribute) : Nla := ⟨a.valueLen, a.kind, a.emitValue⟩

omit [PacketUtils] in
/-- `try_into` an array of four bytes. -/
def tryInto4 (b : Bytes) : Outcome Bytes :=
  if b.length = 4 then .ok b else .fail "could not convert slice to array"

omit [PacketUtils] in
/-- `String::from_utf8`. The text of its error, which names a position, is
shortened. -/
def fromUtf8 (b : Bytes) : Outcome String :=
  match ofUtf8? b with
  | some s => .ok s
  | none => .fail "invalid utf-8 sequence"

/-- Every arm takes the payload, so it is taken in front of them. -/
def parse (buf : NlaBuffer) : Outcome TcActionMessageAttribute := do
  let payload ← value buf
  let kind ← PacketUtils.kind buf
  select kind [
    (TCA_ACT_TAB, .actions <$> parseEach TcAction.parse payload),
    (TCA_ROOT_FLAGS, .flags <$> TcActionMessageFlagsWithSelector.parse buf),
    (TCA_ROOT_COUNT, (.rootCount ∘ ne.toU32) <$> (tryInto4 payload).context "invalid length"),
    (TCA_ROOT_TIME_DELTA,
      (.rootTimeDelta ∘ be.toU32) <$> (tryInto4 payload).context "invalid length"),
    (TCA_ROOT_EXT_WARN_MSG, .rootExtWarnMsg <$> (fromUtf8 payload).context "invalid utf8")]
    (.other <$> defaultNla buf)

end TcActionMessageAttribute

namespace TcActionMessage

/-- What a message about actions is made of. -/
def format : MessageFormat TcActionMessageHeader TcActionMessageAttribute where
  buffer := "TcActionMessageBuffer"
  header := TcActionMessageHeader.codec
  nla := TcActionMessageAttribute.nla
  parseAttributes _ := parseEach TcActionMessageAttribute.parse
  headerErr := some "failed to parse tc message header"
  attributesErr := none

def bufferLen (m : TcActionMessage) : ℕ := format.bufferLen m

def emit (m : TcActionMessage) : Emitter := format.emit m

/-- The attributes are read first, and an error among them is handed on
last. -/
def parse (buf : Bytes) : Outcome TcActionMessage := do
  match parseEach TcActionMessageAttribute.parse (← sliceFrom buf 4) with
  | .panic => .panic
  | attrs => do
    let header ← (TcActionMessageHeader.codec.parse buf).context
      "failed to parse tc message header"
    .ok ⟨header, ← attrs⟩

/-- `TcActionMessageBuffer::new_checked`, then `TcActionMessage::parse`. -/
def decode (b : Bytes) : Outcome TcActionMessage := do
  parse (← checkedBuffer "TcActionMessageBuffer" TcActionMessageHeader.codec.len b)

/-- There is always a header, so the order makes no difference. -/
theorem decode_eq {b : Bytes} : decode b = format.decode b := by
  rcases Nat.lt_or_ge b.length 4 with hlt | hle
  · obtain ⟨e, he⟩ := checkedBuffer_of_lt (s := "TcActionMessageBuffer") hlt
    exact (congrArg (· >>= parse) he).trans (congrArg (· >>= format.parse) he).symm
  · obtain ⟨header, hh, -, heq⟩ := format.decode_of_le (b := b) hle
    have hdec : decode b = parse b :=
      congrArg (· >>= parse) (checkedBuffer_of_le (s := "TcActionMessageBuffer") hle)
    have hattrs : format.parseAttributes header (b.drop format.header.len) =
        parseEach TcActionMessageAttribute.parse (b.drop 4) := rfl
    rw [heq, hdec, parse, sliceFrom_ok hle, Outcome.ok_bind, hattrs,
      show TcActionMessageHeader.codec.parse b = .ok header from hh]
    cases parseEach TcActionMessageAttribute.parse (b.drop 4) <;> rfl

end TcActionMessage

end NetlinkRoute
