import NetlinkRoute.Tc.Model.Action
/-!
# Traffic control — options of disciplines and filters

The options of a discipline or of a filter are a list of attributes for
the four kinds that the program knows. For any other kind the whole
attribute that holds them is kept, as one option.
-/

namespace NetlinkRoute

open PacketUtils Emitter

/-! ## Handles -/

/-- `TcHandle`. -/
structure TcHandle where
  major : UInt16
  minor : UInt16
deriving DecidableEq

namespace TcHandle

/-- `From<u32> for TcHandle`. -/
def ofU32 (d : UInt32) : TcHandle :=
  let bytes := be.u32 d
  { major := be.toU16 (bytes.take 2), minor := be.toU16 (bytes.drop 2) }

/-- `From<TcHandle> for u32`. -/
def toU32 (v : TcHandle) : UInt32 := be.toU32 (be.u16 v.major ++ be.u16 v.minor)

/-- **A handle comes back from its number.** -/
@[simp] theorem ofU32_toU32 (v : TcHandle) : ofU32 v.toU32 = v := by
  have hbytes : be.u32 v.toU32 = be.u16 v.major ++ be.u16 v.minor := u32_toU32 be (by simp)
  rw [ofU32, hbytes]
  simp [List.take_left' (length_u16 be v.major), List.drop_left' (length_u16 be v.major)]

/-- **No number is lost.** -/
@[simp] theorem toU32_ofU32 (d : UInt32) : (ofU32 d).toU32 = d := by
  have hlen : (be.u32 d).length = 4 := length_u32 be d
  rw [toU32, ofU32]
  dsimp only
  rw [u16_toU16 be (by rw [List.length_take]; omega),
    u16_toU16 be (by rw [List.length_drop]; omega), List.take_append_drop, toU32_u32]

end TcHandle

/-! ## Disciplines -/

/-- `TcQdiscIngress::KIND`. -/
abbrev TcQdiscIngress.KIND : String := "ingress"

/-- `TcQdiscIngressOption`. -/
inductive TcQdiscIngressOption where
  | other (v : DefaultNla)
deriving DecidableEq

abbrev TCA_FQ_CODEL_TARGET : UInt16 := 1
abbrev TCA_FQ_CODEL_LIMIT : UInt16 := 2
abbrev TCA_FQ_CODEL_INTERVAL : UInt16 := 3
abbrev TCA_FQ_CODEL_ECN : UInt16 := 4
abbrev TCA_FQ_CODEL_FLOWS : UInt16 := 5
abbrev TCA_FQ_CODEL_QUANTUM : UInt16 := 6
abbrev TCA_FQ_CODEL_CE_THRESHOLD : UInt16 := 7
abbrev TCA_FQ_CODEL_DROP_BATCH_SIZE : UInt16 := 8
abbrev TCA_FQ_CODEL_MEMORY_LIMIT : UInt16 := 9
abbrev TCA_FQ_CODEL_CE_THRESHOLD_SELECTOR : UInt16 := 10
abbrev TCA_FQ_CODEL_CE_THRESHOLD_MASK : UInt16 := 11

/-- `TcQdiscFqCodelOption`. -/
inductive TcQdiscFqCodelOption where
  | target (v : UInt32)
  | limit (v : UInt32)
  | interval (v : UInt32)
  | ecn (v : UInt32)
  | flows (v : UInt32)
  | quantum (v : UInt32)
  | ceThreshold (v : UInt32)
  | dropBatchSize (v : UInt32)
  | memoryLimit (v : UInt32)
  | ceThresholdSelector (v : UInt8)
  | ceThresholdMask (v : UInt8)
  | other (v : DefaultNla)
deriving DecidableEq

/-! ## Keys of selectors -/

/-- `TcU32Key`. -/
structure TcU32Key where
  mask : UInt32
  val : UInt32
  off : Int32
  offmask : Int32
deriving DecidableEq

/-- `TcU32Selector`. The number of keys is a field of its own. -/
structure TcU32Selector where
  flags : UInt8
  offshift : UInt8
  nkeys : UInt8
  offmask : UInt16
  off : UInt16
  offoff : UInt16
  hoff : UInt16
  hmask : UInt32
  keys : List TcU32Key
deriving DecidableEq

abbrev TC_U32_SEL_BUF_LEN : ℕ := 16
abbrev TC_U32_KEY_BUF_LEN : ℕ := 16

section Structs

variable [Host]

/-- `TcU32KeyBuffer`. -/
def TcU32Key.codec : StructCodec TcU32Key where
  len := 16
  parse buf := do
    return {
      mask := ← getU32 buf 0, val := ← getU32 buf 4, off := ← getI32 buf 8,
      offmask := ← getI32 buf 12 }
  layout v := [
    (0, ne.u32 v.mask), (4, ne.u32 v.val), (8, ne.i32 v.off), (12, ne.i32 v.offmask)]
  tiles v := by simp [Tiles]
  length_layout v := by simp
  parse_layout v rest := by simp [getU32_append, getI32_append]
  parse_of_le b hb := by
    simp (disch := exact fits_of_le hb rfl) only [getU32_of_le, getI32_of_le, Outcome.ok_bind,
      Outcome.pure_eq]
    exact ⟨_, rfl⟩

/-- `TcU32SelectorBuffer`, the fields in front of the keys. Byte 3 belongs
to none. -/
def TcU32Selector.header : HeaderCodec TcU32Selector where
  len := 16
  parse buf := do
    return {
      flags := ← getU8 buf 0, offshift := ← getU8 buf 1, nkeys := ← getU8 buf 2,
      offmask := ← getU16 buf 4, off := ← getU16 buf 6, offoff := ← getU16 buf 8,
      hoff := ← getU16 buf 10, hmask := ← getU32 buf 12, keys := [] }
  layout v := [
    (0, [v.flags]), (1, [v.offshift]), (2, [v.nkeys]), (4, ne.u16 v.offmask), (6, ne.u16 v.off),
    (8, ne.u16 v.offoff), (10, ne.u16 v.hoff), (12, ne.u32 v.hmask)]
  WellFormed v := v.keys = []
  ascending v := by simp [Ascending]
  parse_layout v rest h := by
    simp [gapped, zeros, getU16_append, getU32_append]
    rw [← h]
  parse_of_le b hb := by
    simp (disch := exact fits_of_le hb rfl) only [getU8_of_le, getU16_of_le, getU32_of_le,
      Outcome.ok_bind,
      Outcome.pure_eq]
    exact ⟨_, rfl, rfl⟩

end Structs

/-! ## Filters -/

/-- `TcFilterU32::KIND`. -/
abbrev TcFilterU32.KIND : String := "u32"

abbrev TCA_U32_CLASSID : UInt16 := 1
abbrev TCA_U32_HASH : UInt16 := 2
abbrev TCA_U32_LINK : UInt16 := 3
abbrev TCA_U32_DIVISOR : UInt16 := 4
abbrev TCA_U32_SEL : UInt16 := 5
abbrev TCA_U32_POLICE : UInt16 := 6
abbrev TCA_U32_ACT : UInt16 := 7
abbrev TCA_U32_INDEV : UInt16 := 8
abbrev TCA_U32_PCNT : UInt16 := 9
abbrev TCA_U32_MARK : UInt16 := 10
abbrev TCA_U32_FLAGS : UInt16 := 11

/-- `TcFilterU32Option`. The flags are all the bits of the word. -/
inductive TcFilterU32Option where
  | classId (v : TcHandle)
  | hash (v : UInt32)
  | link (v : UInt32)
  | divisor (v : UInt32)
  | selector (v : TcU32Selector)
  | police (v : Bytes)
  | action (v : List TcAction)
  | indev (v : Bytes)
  | pnct (v : Bytes)
  | mark (v : Bytes)
  | flags (v : UInt32)
  | other (v : DefaultNla)
deriving DecidableEq

/-- `TcFilterMatchAll::KIND`. -/
abbrev TcFilterMatchAll.KIND : String := "matchall"

abbrev TCA_MATCHALL_CLASSID : UInt16 := 1
abbrev TCA_MATCHALL_ACT : UInt16 := 2
abbrev TCA_MATCHALL_FLAGS : UInt16 := 3
abbrev TCA_MATCHALL_PCNT : UInt16 := 4

/-- `TcFilterMatchAllOption`. -/
inductive TcFilterMatchAllOption where
  | classId (v : TcHandle)
  | action (v : List TcAction)
  | pnct (v : Bytes)
  | flags (v : UInt32)
  | other (v : DefaultNla)
deriving DecidableEq

/-- `TcOption`. -/
inductive TcOption where
  | fqCodel (v : TcQdiscFqCodelOption)
  | ingress (v : TcQdiscIngressOption)
  | u32 (v : TcFilterU32Option)
  | matchAll (v : TcFilterMatchAllOption)
  | other (v : DefaultNla)
deriving DecidableEq

variable [PacketUtils]

namespace TcQdiscIngressOption

/-- The attribute, as the attribute layer sees it. -/
def nla : TcQdiscIngressOption → Nla
  | .other attr => ⟨attr.valueLen, attr.kind, attr.emitValue⟩

def parse (buf : NlaBuffer) : Outcome TcQdiscIngressOption :=
  .other <$> (defaultNla buf).context "failed to parse ingress nla"

end TcQdiscIngressOption

namespace TcQdiscFqCodelOption

def kind : TcQdiscFqCodelOption → UInt16
  | .target _ => TCA_FQ_CODEL_TARGET
  | .limit _ => TCA_FQ_CODEL_LIMIT
  | .interval _ => TCA_FQ_CODEL_INTERVAL
  | .ecn _ => TCA_FQ_CODEL_ECN
  | .flows _ => TCA_FQ_CODEL_FLOWS
  | .quantum _ => TCA_FQ_CODEL_QUANTUM
  | .ceThreshold _ => TCA_FQ_CODEL_CE_THRESHOLD
  | .dropBatchSize _ => TCA_FQ_CODEL_DROP_BATCH_SIZE
  | .memoryLimit _ => TCA_FQ_CODEL_MEMORY_LIMIT
  | .ceThresholdSelector _ => TCA_FQ_CODEL_CE_THRESHOLD_SELECTOR
  | .ceThresholdMask _ => TCA_FQ_CODEL_CE_THRESHOLD_MASK
  | .other attr => attr.kind

def valueLen : TcQdiscFqCodelOption → ℕ
  | .target _ | .limit _ | .interval _ | .ecn _ | .flows _ | .quantum _ | .ceThreshold _
  | .dropBatchSize _ | .memoryLimit _ => 4
  | .ceThresholdSelector _ | .ceThresholdMask _ => 1
  | .other attr => attr.valueLen

def emitValue : TcQdiscFqCodelOption → Emitter
  | .target d | .limit d | .interval d | .ecn d | .flows d | .quantum d | .ceThreshold d
  | .dropBatchSize d | .memoryLimit d => .put 0 (ne.u32 d)
  | .ceThresholdSelector d | .ceThresholdMask d => .put 0 [d]
  | .other attr => attr.emitValue

/-- The attribute, as the attribute layer sees it. -/
def nla (a : TcQdiscFqCodelOption) : Nla := ⟨a.valueLen, a.kind, a.emitValue⟩

def parse (buf : NlaBuffer) : Outcome TcQdiscFqCodelOption := do
  let payload ← value buf
  let kind ← PacketUtils.kind buf
  select kind [
    (TCA_FQ_CODEL_TARGET,
      .target <$> (parseU32 payload).context "failed to parse TCA_FQ_CODEL_TARGET"),
    (TCA_FQ_CODEL_LIMIT,
      .limit <$> (parseU32 payload).context "failed to parse TCA_FQ_CODEL_LIMIT"),
    (TCA_FQ_CODEL_INTERVAL,
      .interval <$> (parseU32 payload).context "failed to parse TCA_FQ_CODEL_INTERVAL"),
    (TCA_FQ_CODEL_ECN, .ecn <$> (parseU32 payload).context "failed to parse TCA_FQ_CODEL_ECN"),
    (TCA_FQ_CODEL_FLOWS,
      .flows <$> (parseU32 payload).context "failed to parse TCA_FQ_CODEL_FLOWS"),
    (TCA_FQ_CODEL_QUANTUM,
      .quantum <$> (parseU32 payload).context "failed to parse TCA_FQ_CODEL_QUANTUM"),
    (TCA_FQ_CODEL_CE_THRESHOLD,
      .ceThreshold <$> (parseU32 payload).context "failed to parse TCA_FQ_CODEL_CETHRESHOLD"),
    (TCA_FQ_CODEL_DROP_BATCH_SIZE,
      .dropBatchSize <$> (parseU32 payload).context "failed to parse TCA_FQ_CODEL_DROP_BATCH_SIZE"),
    (TCA_FQ_CODEL_MEMORY_LIMIT,
      .memoryLimit <$> (parseU32 payload).context "failed to parse TCA_FQ_CODEL_MEMORY_LIMIT"),
    (TCA_FQ_CODEL_CE_THRESHOLD_SELECTOR,
      .ceThresholdSelector <$>
        (parseU8 payload).context "failed to parse TCA_FQ_CODEL_CE_THRESHOLD_SELECTOR"),
    (TCA_FQ_CODEL_CE_THRESHOLD_MASK,
      .ceThresholdMask <$>
        (parseU8 payload).context "failed to parse TCA_FQ_CODEL_CE_THRESHOLD_MASK")]
    (.other <$> (defaultNla buf).context "failed to parse u32 nla")

end TcQdiscFqCodelOption

namespace TcU32Selector

def bufferLen (s : TcU32Selector) : ℕ := TC_U32_SEL_BUF_LEN + s.nkeys.toNat * TC_U32_KEY_BUF_LEN

/-- A key, in the bytes behind the header that its position gives. -/
def emitKey (k : TcU32Key × ℕ) : Emitter :=
  onSlice (k.2 * TC_U32_KEY_BUF_LEN) ((k.2 + 1) * TC_U32_KEY_BUF_LEN) (TcU32Key.codec.emit k.1)

def emit (s : TcU32Selector) : Emitter :=
  (header.emit s).andThen (onTail TC_U32_SEL_BUF_LEN (block (s.keys.zipIdx.map emitKey)))

/-- The key at a position. -/
def parseKey (keyPayload : Bytes) (i : ℕ) : Outcome TcU32Key := do
  let keyBuf ← slice keyPayload (i * TC_U32_KEY_BUF_LEN) ((i + 1) * TC_U32_KEY_BUF_LEN)
  let keyBuf ← (checkedBuffer "TcU32KeyBuffer" TcU32Key.codec.len keyBuf).context "invalid u32 key"
  (TcU32Key.codec.parse keyBuf).context "failed to parse u32 key"

/-- A key that there is room for is read from its sixteen bytes. -/
theorem exists_parseKey {keys : Bytes} {i : ℕ} (h : (i + 1) * 16 ≤ keys.length) :
    ∃ key, TcU32Key.codec.parse ((keys.drop (i * 16)).take 16) = .ok key ∧
      parseKey keys i = .ok key := by
  have hlen : TcU32Key.codec.len ≤ ((keys.drop (i * 16)).take 16).length := by
    rw [List.length_take, List.length_drop]
    exact Nat.le_min.2 ⟨Nat.le_refl 16, show 16 ≤ _ by omega⟩
  have hslice : slice keys (i * TC_U32_KEY_BUF_LEN) ((i + 1) * TC_U32_KEY_BUF_LEN) =
      .ok ((keys.drop (i * 16)).take 16) := by
    rw [slice_ok (Nat.mul_le_mul_right _ (Nat.le_succ i)) h]
    congr 2
    omega
  obtain ⟨key, hkey⟩ := TcU32Key.codec.parse_of_le _ hlen
  refine ⟨key, hkey, ?_⟩
  rw [parseKey, hslice, Outcome.ok_bind, checkedBuffer_of_le hlen, Outcome.context_ok,
    Outcome.ok_bind, hkey, Outcome.context_ok]

/-- As many keys as the header counts, whatever there is room for. -/
def parse (buf : Bytes) : Outcome TcU32Selector := do
  let nkeys ← getU8 buf 2
  let keyPayload ← sliceFrom buf TC_U32_SEL_BUF_LEN
  let keys ← forEach (parseKey keyPayload) (List.range nkeys.toNat)
  let head ← header.parse buf
  return { head with nkeys, keys }

end TcU32Selector

namespace TcFilterU32Option

def kind : TcFilterU32Option → UInt16
  | .classId _ => TCA_U32_CLASSID
  | .hash _ => TCA_U32_HASH
  | .link _ => TCA_U32_LINK
  | .divisor _ => TCA_U32_DIVISOR
  | .selector _ => TCA_U32_SEL
  | .police _ => TCA_U32_POLICE
  | .action _ => TCA_U32_ACT
  | .indev _ => TCA_U32_INDEV
  | .pnct _ => TCA_U32_PCNT
  | .mark _ => TCA_U32_MARK
  | .flags _ => TCA_U32_FLAGS
  | .other attr => attr.kind

def valueLen : TcFilterU32Option → ℕ
  | .police b | .indev b | .pnct b | .mark b => b.length
  | .hash _ | .link _ | .divisor _ | .flags _ => 4
  | .classId _ => 4
  | .selector s => s.bufferLen
  | .action acts => nlasLen (acts.map TcAction.nla)
  | .other attr => attr.valueLen

def emitValue : TcFilterU32Option → Emitter
  | .police b | .indev b | .pnct b | .mark b => .copy b
  | .hash i | .link i | .divisor i => .put 0 (ne.u32 i)
  | .flags f => .put 0 (ne.u32 f)
  | .classId i => .put 0 (ne.u32 i.toU32)
  | .selector s => s.emit
  | .action acts => emitNlas (acts.map TcAction.nla)
  | .other attr => attr.emitValue

/-- The attribute, as the attribute layer sees it. -/
def nla (a : TcFilterU32Option) : Nla := ⟨a.valueLen, a.kind, a.emitValue⟩

def parse (buf : NlaBuffer) : Outcome TcFilterU32Option := do
  let payload ← value buf
  let kind ← PacketUtils.kind buf
  select kind [
    (TCA_U32_CLASSID,
      (.classId ∘ TcHandle.ofU32) <$> (parseU32 payload).context "failed to parse TCA_U32_UNSPEC"),
    (TCA_U32_HASH, .hash <$> (parseU32 payload).context "failed to parse TCA_U32_HASH"),
    (TCA_U32_LINK, .link <$> (parseU32 payload).context "failed to parse TCA_U32_LINK"),
    (TCA_U32_DIVISOR, .divisor <$> (parseU32 payload).context "failed to parse TCA_U32_DIVISOR"),
    (TCA_U32_SEL,
      .selector <$> (do
        let buf ← (checkedBuffer "TcU32SelectorBuffer" TC_U32_SEL_BUF_LEN payload).context
          "invalid TCA_U32_SEL"
        (TcU32Selector.parse buf).context "failed to parse TCA_U32_SEL")),
    (TCA_U32_POLICE, .ok (.police payload)),
    (TCA_U32_ACT,
      .action <$> parseNlas "invalid TCA_U32_ACT" "failed to parse TCA_U32_ACT" TcAction.parse
        payload),
    (TCA_U32_INDEV, .ok (.indev payload)),
    (TCA_U32_PCNT, .ok (.pnct payload)),
    (TCA_U32_MARK, .ok (.mark payload)),
    (TCA_U32_FLAGS, .flags <$> (parseU32 payload).context "failed to parse TCA_U32_FLAGS")]
    (.other <$> (defaultNla buf).context "failed to parse u32 nla")

end TcFilterU32Option

namespace TcFilterMatchAllOption

def kind : TcFilterMatchAllOption → UInt16
  | .classId _ => TCA_MATCHALL_CLASSID
  | .action _ => TCA_MATCHALL_ACT
  | .pnct _ => TCA_MATCHALL_PCNT
  | .flags _ => TCA_MATCHALL_FLAGS
  | .other attr => attr.kind

def valueLen : TcFilterMatchAllOption → ℕ
  | .pnct b => b.length
  | .classId _ => 4
  | .flags _ => 4
  | .action acts => nlasLen (acts.map TcAction.nla)
  | .other attr => attr.valueLen

def emitValue : TcFilterMatchAllOption → Emitter
  | .pnct b => .copy b
  | .classId i => .put 0 (ne.u32 i.toU32)
  | .flags i => .put 0 (ne.u32 i)
  | .action acts => emitNlas (acts.map TcAction.nla)
  | .other attr => attr.emitValue

/-- The attribute, as the attribute layer sees it. -/
def nla (a : TcFilterMatchAllOption) : Nla := ⟨a.valueLen, a.kind, a.emitValue⟩

def parse (buf : NlaBuffer) : Outcome TcFilterMatchAllOption := do
  let payload ← value buf
  let kind ← PacketUtils.kind buf
  select kind [
    (TCA_MATCHALL_CLASSID,
      (.classId ∘ TcHandle.ofU32) <$>
        (parseU32 payload).context "failed to parse TCA_MATCHALL_UNSPEC"),
    (TCA_MATCHALL_ACT,
      .action <$> parseNlas "invalid TCA_MATCHALL_ACT" "failed to parse TCA_MATCHALL_ACT"
        TcAction.parse payload),
    (TCA_MATCHALL_PCNT, .ok (.pnct payload)),
    (TCA_MATCHALL_FLAGS,
      .flags <$> (parseU32 payload).context "failed to parse TCA_MATCHALL_FLAGS")]
    (.other <$> (defaultNla buf).context "failed to parse u32 nla")

end TcFilterMatchAllOption

/-! ## Options of all kinds -/

namespace TcOption

/-- The attribute, as the attribute layer sees it. -/
def nla : TcOption → Nla
  | .fqCodel u => u.nla
  | .ingress u => u.nla
  | .u32 u => u.nla
  | .matchAll m => m.nla
  | .other o => ⟨o.valueLen, o.kind, o.emitValue⟩

/-- `TcOption::parse_with_param`. -/
def parseWithParam (buf : NlaBuffer) (kind : String) : Outcome TcOption :=
  select kind [
    (TcQdiscIngress.KIND,
      .ingress <$> (TcQdiscIngressOption.parse buf).context
        "failed to parse ingress TCA_OPTIONS attributes"),
    (TcQdiscFqCodel.KIND,
      .fqCodel <$> (TcQdiscFqCodelOption.parse buf).context
        "failed to parse fq_codel TCA_OPTIONS attributes"),
    (TcFilterU32.KIND,
      .u32 <$> (TcFilterU32Option.parse buf).context
        "failed to parse u32 TCA_OPTIONS attributes"),
    (TcFilterMatchAll.KIND,
      .matchAll <$> (TcFilterMatchAllOption.parse buf).context
        "failed to parse matchall TCA_OPTIONS attributes")]
    (.other <$> defaultNla buf)

end TcOption

namespace VecTcOption

/-- The kinds whose options are a list. -/
def listKinds : List String :=
  [TcFilterU32.KIND, TcFilterMatchAll.KIND, TcQdiscIngress.KIND, TcQdiscFqCodel.KIND]

/-- `VecTcOption::parse_with_param`. For a kind that is not known, the
attribute itself is the one option. -/
def parseWithParam (buf : NlaBuffer) (kind : String) : Outcome (List TcOption) :=
  if kind ∈ listKinds then do
    parseNlas ("Invalid TCA_OPTIONS for kind: " ++ kind)
      ("Failed to parse TCA_OPTIONS for kind: " ++ kind) (TcOption.parseWithParam · kind)
      (← value buf)
  else do
    return [.other (← defaultNla buf)]

end VecTcOption

end NetlinkRoute
