import NetlinkRoute.Tc.Model.Stats
/-!
# Traffic control — actions

An action names its kind in one of its attributes, anywhere in the list.
The decoder goes through the list twice: once for the kind, which has to
be there exactly once, and once for everything, read as that kind says.
-/

namespace NetlinkRoute

open PacketUtils Emitter

/-! ## Parameters of actions -/

abbrev TC_ACT_UNSPEC : Int32 := -1
abbrev TC_ACT_OK : Int32 := 0
abbrev TC_ACT_RECLASSIFY : Int32 := 1
abbrev TC_ACT_SHOT : Int32 := 2
abbrev TC_ACT_PIPE : Int32 := 3
abbrev TC_ACT_STOLEN : Int32 := 4
abbrev TC_ACT_QUEUED : Int32 := 5
abbrev TC_ACT_REPEAT : Int32 := 6
abbrev TC_ACT_REDIRECT : Int32 := 7
abbrev TC_ACT_TRAP : Int32 := 8

/-- `TcActionType`. -/
inductive TcActionType where
  | unspec | ok | reclassify | shot | pipe | stolen | queued | repeat_ | redirect | trap
  | other (d : Int32)
deriving DecidableEq

/-- The numbers of `TcActionType`. -/
def TcActionType.codec : EnumCodec Int32 TcActionType where
  arms := [(TC_ACT_UNSPEC, .unspec), (TC_ACT_OK, .ok), (TC_ACT_RECLASSIFY, .reclassify),
    (TC_ACT_SHOT, .shot), (TC_ACT_PIPE, .pipe), (TC_ACT_STOLEN, .stolen),
    (TC_ACT_QUEUED, .queued), (TC_ACT_REPEAT, .repeat_), (TC_ACT_REDIRECT, .redirect),
    (TC_ACT_TRAP, .trap)]
  other := .other
  toNum
    | .unspec => TC_ACT_UNSPEC | .ok => TC_ACT_OK | .reclassify => TC_ACT_RECLASSIFY
    | .shot => TC_ACT_SHOT | .pipe => TC_ACT_PIPE | .stolen => TC_ACT_STOLEN
    | .queued => TC_ACT_QUEUED | .repeat_ => TC_ACT_REPEAT | .redirect => TC_ACT_REDIRECT
    | .trap => TC_ACT_TRAP | .other d => d
  toNum_arm := by decide
  toNum_other _ := rfl

/-- `TcActionGeneric`. -/
structure TcActionGeneric where
  index : UInt32
  capab : UInt32
  action : TcActionType
  refcnt : Int32
  bindcnt : Int32
deriving DecidableEq

abbrev TCA_EGRESS_REDIR : Int32 := 1
abbrev TCA_EGRESS_MIRROR : Int32 := 2
abbrev TCA_INGRESS_REDIR : Int32 := 3
abbrev TCA_INGRESS_MIRROR : Int32 := 4

/-- `TcMirrorActionType`. -/
inductive TcMirrorActionType where
  | egressRedir | egressMirror | ingressRedir | ingressMirror | other (d : Int32)
deriving DecidableEq

/-- The numbers of `TcMirrorActionType`. -/
def TcMirrorActionType.codec : EnumCodec Int32 TcMirrorActionType where
  arms := [(TCA_EGRESS_REDIR, .egressRedir), (TCA_EGRESS_MIRROR, .egressMirror),
    (TCA_INGRESS_REDIR, .ingressRedir), (TCA_INGRESS_MIRROR, .ingressMirror)]
  other := .other
  toNum
    | .egressRedir => TCA_EGRESS_REDIR | .egressMirror => TCA_EGRESS_MIRROR
    | .ingressRedir => TCA_INGRESS_REDIR | .ingressMirror => TCA_INGRESS_MIRROR | .other d => d
  toNum_arm := by decide
  toNum_other _ := rfl

/-- `TcMirror`. -/
structure TcMirror where
  generic : TcActionGeneric
  eaction : TcMirrorActionType
  ifindex : UInt32
deriving DecidableEq

/-- `TcNat`. Its flags are all the bits of the word, named or not. -/
structure TcNat where
  generic : TcActionGeneric
  oldAddr : Ipv4Addr
  newAddr : Ipv4Addr
  mask : Ipv4Addr
  flags : UInt32
deriving DecidableEq

section Structs

variable [Host]

namespace TcActionGeneric

/-- The getters of `TcActionGenericBuffer`. -/
def parse (buf : Bytes) : Outcome TcActionGeneric := do
  return {
    index := ← getU32 buf 0
    capab := ← getU32 buf 4
    action := TcActionType.codec.ofNum (← getI32 buf 8)
    refcnt := ← getI32 buf 12
    bindcnt := ← getI32 buf 16 }

/-- Its setters. -/
def layout (v : TcActionGeneric) : List (ℕ × Bytes) := [
  (0, ne.u32 v.index), (4, ne.u32 v.capab), (8, ne.i32 (TcActionType.codec.toNum v.action)),
  (12, ne.i32 v.refcnt), (16, ne.i32 v.bindcnt)]

/-- The type of the action is the one its number names. -/
def Canonical (v : TcActionGeneric) : Prop := TcActionType.codec.Canonical v.action

@[simp] theorem length_layoutBytes {v : TcActionGeneric} : (layoutBytes v.layout).length = 20 := by
  simp [layout]

/-- The generic part of an action is read back from its twenty bytes. -/
theorem parse_layout {v : TcActionGeneric} (h : v.Canonical) :
    parse (layoutBytes v.layout) = .ok v := by
  simp [parse, layout, getU32_append, getI32_append, EnumCodec.Canonical.ofNum_toNum h]

/-- Twenty bytes are enough to read one, and it is canonical. -/
theorem parse_of_le {b : Bytes} (h : 20 ≤ b.length) : ∃ v, parse b = .ok v ∧ v.Canonical := by
  simp (disch := omega) only [parse, getU32_of_le, getI32_of_le, Outcome.ok_bind, Outcome.pure_eq]
  exact ⟨_, rfl, by simp [Canonical]⟩

end TcActionGeneric

/-- `TcMirrorBuffer`. The first field is a buffer of its own. -/
def TcMirror.codec : HeaderCodec TcMirror where
  len := 28
  parse buf := do
    return {
      generic := ← TcActionGeneric.parse (← slice buf 0 20)
      eaction := TcMirrorActionType.codec.ofNum (← getI32 buf 20)
      ifindex := ← getU32 buf 24 }
  layout v := v.generic.layout ++
    [(20, ne.i32 (TcMirrorActionType.codec.toNum v.eaction)), (24, ne.u32 v.ifindex)]
  WellFormed v := v.generic.Canonical ∧ TcMirrorActionType.codec.Canonical v.eaction
  ascending v := by simp [TcActionGeneric.layout, Ascending]
  parse_layout v rest h := by
    have hbytes : gapped 0 28 (v.generic.layout ++
        [(20, ne.i32 (TcMirrorActionType.codec.toNum v.eaction)), (24, ne.u32 v.ifindex)]) =
        layoutBytes v.generic.layout ++
          (ne.i32 (TcMirrorActionType.codec.toNum v.eaction) ++ ne.u32 v.ifindex) := by
      simp [TcActionGeneric.layout, gapped]
    have hlen := TcActionGeneric.length_layoutBytes (v := v.generic)
    have hgen := TcActionGeneric.parse_layout h.1
    rw [hbytes]
    generalize layoutBytes v.generic.layout = g at hlen hgen
    rw [List.append_assoc, slice_append_left hlen.symm, Outcome.ok_bind, hgen]
    simp [getU32_append, getI32_append, hlen, h.2.ofNum_toNum]
  parse_of_le b h := by
    have hlen : 20 ≤ ((b.drop 0).take (20 - 0)).length := by
      rw [List.length_take, List.length_drop]
      omega
    obtain ⟨v, hv, hc⟩ := TcActionGeneric.parse_of_le hlen
    rw [slice_ok (by omega) (by omega), Outcome.ok_bind, hv]
    simp (disch := omega) only [getU32_of_le, getI32_of_le, Outcome.ok_bind, Outcome.pure_eq]
    exact ⟨_, rfl, hc, by simp⟩

namespace TcNat

omit [Host]

/-- `parse_ipv4`. -/
def parseIpv4 (data : Bytes) : Outcome Ipv4Addr :=
  if h : data.length = 4 then .ok ⟨data, h⟩
  else .fail ("Invalid length of IPv4 Address, expecting 4 bytes, but got " ++ debug data)

/-- An address of the buffer. -/
def addr (buf : Bytes) (off : ℕ) : Outcome Ipv4Addr := do parseIpv4 (← slice buf off (off + 4))

/-- The slice has four bytes, so no address is refused. -/
theorem addr_eq {buf : Bytes} {off : ℕ} : addr buf off = getOctets buf off 4 := by
  rcases Nat.lt_or_ge buf.length (off + 4) with h | h
  · rw [addr, slice_panic h, getOctets_of_lt h]
    rfl
  · have hlen : ((buf.drop off).take 4).length = 4 := by
      rw [List.length_take, List.length_drop]
      omega
    rw [addr, slice_ok (by omega) h, Outcome.ok_bind, getOctets_of_le h, parseIpv4,
      Nat.add_sub_cancel_left, dif_pos hlen]
    exact congrArg Outcome.ok (Subtype.ext (Octets.ofBytes_val hlen).symm)

end TcNat

/-- `TcNatBuffer`. -/
def TcNat.codec : HeaderCodec TcNat where
  len := 36
  parse buf := do
    return {
      generic := ← TcActionGeneric.parse (← slice buf 0 20)
      oldAddr := ← addr buf 20
      newAddr := ← addr buf 24
      mask := ← addr buf 28
      flags := ← getU32 buf 32 }
  layout v := v.generic.layout ++
    [(20, v.oldAddr.val), (24, v.newAddr.val), (28, v.mask.val), (32, ne.u32 v.flags)]
  WellFormed v := v.generic.Canonical
  ascending v := by
    simp [TcActionGeneric.layout, Ascending, v.oldAddr.property, v.newAddr.property,
      v.mask.property]
  parse_layout v rest h := by
    have hbytes : gapped 0 36 (v.generic.layout ++
        [(20, v.oldAddr.val), (24, v.newAddr.val), (28, v.mask.val), (32, ne.u32 v.flags)]) =
        layoutBytes v.generic.layout ++
          (v.oldAddr.val ++ (v.newAddr.val ++ (v.mask.val ++ ne.u32 v.flags))) := by
      simp [TcActionGeneric.layout, gapped, v.oldAddr.property, v.newAddr.property,
        v.mask.property]
    have hlen := TcActionGeneric.length_layoutBytes (v := v.generic)
    have hgen := TcActionGeneric.parse_layout h
    rw [hbytes]
    generalize layoutBytes v.generic.layout = g at hlen hgen
    rw [List.append_assoc, slice_append_left hlen.symm, Outcome.ok_bind, hgen]
    simp [addr_eq, getU32_append, getOctets_append, hlen, v.oldAddr.property, v.newAddr.property,
      v.mask.property]
  parse_of_le b h := by
    have hlen : 20 ≤ ((b.drop 0).take (20 - 0)).length := by
      rw [List.length_take, List.length_drop]
      omega
    obtain ⟨v, hv, hc⟩ := TcActionGeneric.parse_of_le hlen
    rw [slice_ok (by omega) (by omega), Outcome.ok_bind, hv]
    simp (disch := omega) only [addr_eq, getU32_of_le, getOctets_of_le, Outcome.ok_bind,
      Outcome.pure_eq]
    exact ⟨_, rfl, hc⟩

end Structs

/-! ## Options of actions -/

/-- `TcActionMirror::KIND`. -/
abbrev TcActionMirror.KIND : String := "mirred"

/-- `TcActionNat::KIND`. -/
abbrev TcActionNat.KIND : String := "nat"

abbrev TCA_MIRRED_TM : UInt16 := 1
abbrev TCA_MIRRED_PARMS : UInt16 := 2

/-- `TcActionMirrorOption`. -/
inductive TcActionMirrorOption where
  | tm (v : Bytes)
  | parms (v : TcMirror)
  | other (v : DefaultNla)
deriving DecidableEq

abbrev TCA_NAT_PARMS : UInt16 := 1
abbrev TCA_NAT_TM : UInt16 := 2

/-- `TcActionNatOption`. -/
inductive TcActionNatOption where
  | tm (v : Bytes)
  | parms (v : TcNat)
  | other (v : DefaultNla)
deriving DecidableEq

/-- `TcActionOption`. -/
inductive TcActionOption where
  | mirror (v : TcActionMirrorOption)
  | nat (v : TcActionNatOption)
  | other (v : DefaultNla)
deriving DecidableEq

abbrev TCA_ACT_KIND : UInt16 := 1
abbrev TCA_ACT_OPTIONS : UInt16 := 2
abbrev TCA_ACT_INDEX : UInt16 := 3
abbrev TCA_ACT_STATS : UInt16 := 4
abbrev TCA_ACT_COOKIE : UInt16 := 6
abbrev TCA_ACT_IN_HW_COUNT : UInt16 := 10

/-- `TcActionAttribute`. -/
inductive TcActionAttribute where
  | kind_ (v : String)
  | options (v : List TcActionOption)
  | index (v : UInt32)
  | stats (v : List TcStats2)
  | cookie (v : Bytes)
  | inHwCount (v : UInt32)
  | other (v : DefaultNla)
deriving DecidableEq

/-- `TcAction`. -/
structure TcAction where
  tab : UInt16
  attributes : List TcActionAttribute
deriving DecidableEq

variable [PacketUtils]

namespace TcActionMirrorOption

def kind : TcActionMirrorOption → UInt16
  | .tm _ => TCA_MIRRED_TM
  | .parms _ => TCA_MIRRED_PARMS
  | .other nla => nla.kind

def valueLen : TcActionMirrorOption → ℕ
  | .tm bytes => bytes.length
  | .parms _ => TcMirror.codec.len
  | .other attr => attr.valueLen

def emitValue : TcActionMirrorOption → Emitter
  | .tm bytes => .copy bytes
  | .parms p => TcMirror.codec.emit p
  | .other attr => attr.emitValue

/-- The attribute, as the attribute layer sees it. -/
def nla (a : TcActionMirrorOption) : Nla := ⟨a.valueLen, a.kind, a.emitValue⟩

def parse (buf : NlaBuffer) : Outcome TcActionMirrorOption := do
  let payload ← value buf
  let kind ← PacketUtils.kind buf
  select kind [
    (TCA_MIRRED_TM, .ok (.tm payload)),
    (TCA_MIRRED_PARMS,
      .parms <$> (do
        TcMirror.codec.parse (← checkedBuffer "TcMirrorBuffer" TcMirror.codec.len payload)))]
    (.other <$> defaultNla buf)

end TcActionMirrorOption

namespace TcActionNatOption

def kind : TcActionNatOption → UInt16
  | .tm _ => TCA_NAT_TM
  | .parms _ => TCA_NAT_PARMS
  | .other nla => nla.kind

def valueLen : TcActionNatOption → ℕ
  | .tm bytes => bytes.length
  | .parms _ => TcNat.codec.len
  | .other attr => attr.valueLen

def emitValue : TcActionNatOption → Emitter
  | .tm bytes => .copy bytes
  | .parms p => TcNat.codec.emit p
  | .other attr => attr.emitValue

/-- The attribute, as the attribute layer sees it. -/
def nla (a : TcActionNatOption) : Nla := ⟨a.valueLen, a.kind, a.emitValue⟩

def parse (buf : NlaBuffer) : Outcome TcActionNatOption := do
  let payload ← value buf
  let kind ← PacketUtils.kind buf
  select kind [
    (TCA_NAT_TM, .ok (.tm payload)),
    (TCA_NAT_PARMS,
      .parms <$> (do TcNat.codec.parse (← checkedBuffer "TcNatBuffer" TcNat.codec.len payload)))]
    (.other <$> defaultNla buf)

end TcActionNatOption

namespace TcActionOption

/-- The attribute, as the attribute layer sees it. -/
def nla : TcActionOption → Nla
  | .mirror nla => nla.nla
  | .nat nla => nla.nla
  | .other nla => ⟨nla.valueLen, nla.kind, nla.emitValue⟩

/-- `TcActionOption::parse_with_param`: the kind of the action decides. -/
def parseWithParam (buf : NlaBuffer) (kind : String) : Outcome TcActionOption :=
  select kind [
    (TcActionMirror.KIND,
      .mirror <$> (TcActionMirrorOption.parse buf).context "failed to parse mirror action"),
    (TcActionNat.KIND,
      .nat <$> (TcActionNatOption.parse buf).context "failed to parse nat action")]
    (.other <$> (defaultNla buf).context "failed to parse action options")

end TcActionOption

/-! ## Actions -/

namespace TcActionAttribute

def kind : TcActionAttribute → UInt16
  | .kind_ _ => TCA_ACT_KIND
  | .options _ => TCA_ACT_OPTIONS ||| NLA_F_NESTED
  | .index _ => TCA_ACT_INDEX
  | .stats _ => TCA_ACT_STATS
  | .cookie _ => TCA_ACT_COOKIE
  | .inHwCount _ => TCA_ACT_IN_HW_COUNT
  | .other nla => nla.kind

def valueLen : TcActionAttribute → ℕ
  | .cookie bytes => bytes.length
  | .kind_ k => (utf8 k).length + 1
  | .options opt => nlasLen (opt.map TcActionOption.nla)
  | .index _ | .inHwCount _ => 4
  | .stats s => nlasLen (s.map TcStats2.nla)
  | .other attr => attr.valueLen

def emitValue : TcActionAttribute → Emitter
  | .cookie bytes => .copy bytes
  | .kind_ string => emitStringNul string
  | .options opt => emitNlas (opt.map TcActionOption.nla)
  | .index value | .inHwCount value => .put 0 (ne.u32 value)
  | .stats s => emitNlas (s.map TcStats2.nla)
  | .other attr => attr.emitValue

/-- The attribute, as the attribute layer sees it. -/
def nla (a : TcActionAttribute) : Nla := ⟨a.valueLen, a.kind, a.emitValue⟩

/-- `TcActionAttribute::parse_with_param`. Every arm takes the payload, so
it is taken in front of them. -/
def parseWithParam (buf : NlaBuffer) (kind : String) : Outcome TcActionAttribute := do
  let payload ← value buf
  let nlaKind ← PacketUtils.kind buf
  select nlaKind [
    (TCA_ACT_KIND, .kind_ <$> (parseString payload).context "failed to parse TCA_ACT_KIND"),
    (TCA_ACT_OPTIONS,
      .options <$> parseNlas "invalid TCA_ACT_OPTIONS" "failed to parse TCA_ACT_OPTIONS"
        (TcActionOption.parseWithParam · kind) payload),
    (TCA_ACT_INDEX, .index <$> (parseU32 payload).context "failed to parse TCA_ACT_INDEX"),
    (TCA_ACT_STATS,
      .stats <$> parseNlas "invalid TCA_ACT_STATS" "failed to parse TCA_ACT_STATS"
        (TcStats2.parseWithParam · kind) payload),
    (TCA_ACT_COOKIE, .ok (.cookie payload)),
    (TCA_ACT_IN_HW_COUNT,
      .inHwCount <$> (parseU32 payload).context "failed to parse TCA_ACT_IN_HW_COUNT")]
    (.other <$> (defaultNla buf).context "failed to parse action nla")

end TcActionAttribute

namespace TcAction

/-- The attribute, as the attribute layer sees it. -/
def nla (a : TcAction) : Nla :=
  ⟨nlasLen (a.attributes.map TcActionAttribute.nla), a.tab,
    emitNlas (a.attributes.map TcActionAttribute.nla)⟩

/-- One attribute in the search for kinds: nothing, or the name it holds. -/
def parseKind (nla : Outcome NlaBuffer) : Outcome (List String) := do
  let nla ← nla.context "failed to parse action nla"
  if (← kind nla) = TCA_ACT_KIND then
    List.singleton <$> (parseString (← value nla)).context "failed to parse TCA_ACT_KIND"
  else .ok []

/-- The kind of an action: the name in the one attribute that holds one.
Of an error only the outermost text is handed on. -/
def findKind (payload : Bytes) : Outcome String :=
  match List.flatten <$> forEach parseKind (nlas payload) with
  | .ok [] => .fail "Missing TCA_ACT_KIND"
  | .ok [kind] => .ok kind
  | .ok _ => .fail "Duplicate TCA_ACT_KIND"
  | .err e => .fail e.display
  | .panic => .panic

/-- The kind is found first, and the attributes are read with it. -/
def parse (buf : NlaBuffer) : Outcome TcAction := do
  let kind ← findKind (← value buf)
  let attributes ← parseEach (TcActionAttribute.parseWithParam · kind) (← value buf)
  return { tab := ← PacketUtils.kind buf, attributes }

end TcAction

end NetlinkRoute
