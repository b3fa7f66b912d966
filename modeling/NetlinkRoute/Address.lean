import NetlinkRoute.Common.Message
import NetlinkRoute.Route.Model.Header
/-!
# Addresses and prefixes

The addresses of an interface, and the prefixes that routers announce on
it. In both, one attribute is a structure of life times that is read
through an unchecked buffer, so decoding panics exactly when it gets to
one that is cut short (`AddressMessage.decode_eq_panic_iff`,
`PrefixMessage.decode_eq_panic_iff`). What was decoded is written back to
the same message (`AddressMessage.decode_stable`,
`PrefixMessage.decode_stable`).
-/

namespace NetlinkRoute

open PacketUtils Emitter

/-! ## Addresses: the model -/

/-- `AddressScope`. -/
inductive AddressScope where
  | universe_ | site | link | host | nowhere | other (d : UInt8)
deriving DecidableEq

/-- The numbers of `AddressScope`. -/
def AddressScope.codec : EnumCodec UInt8 AddressScope where
  arms := [(RT_SCOPE_UNIVERSE, .universe_), (RT_SCOPE_SITE, .site), (RT_SCOPE_LINK, .link),
    (RT_SCOPE_HOST, .host), (RT_SCOPE_NOWHERE, .nowhere)]
  other := .other
  toNum
    | .universe_ => RT_SCOPE_UNIVERSE | .site => RT_SCOPE_SITE | .link => RT_SCOPE_LINK
    | .host => RT_SCOPE_HOST | .nowhere => RT_SCOPE_NOWHERE | .other d => d
  toNum_arm := by decide
  toNum_other _ := rfl

/-- `AddressHeader`. The flags are a bit set that keeps unknown bits. -/
structure AddressHeader where
  family : AddressFamily
  prefixLen : UInt8
  flags : UInt8
  scope : AddressScope
  index : UInt32
deriving DecidableEq

/-- `AddressMessageBuffer`. -/
def AddressHeader.codec [Host] : HeaderCodec AddressHeader where
  len := 8
  parse buf := do
    return {
      family := AddressFamily.codec.ofNum (← getU8 buf 0)
      prefixLen := ← getU8 buf 1
      flags := ← getU8 buf 2
      scope := AddressScope.codec.ofNum (← getU8 buf 3)
      index := ← getU32 buf 4 }
  layout h := [
    (0, [AddressFamily.codec.toNum h.family]), (1, [h.prefixLen]), (2, [h.flags]),
    (3, [AddressScope.codec.toNum h.scope]), (4, ne.u32 h.index)]
  WellFormed h := AddressFamily.codec.Canonical h.family ∧ AddressScope.codec.Canonical h.scope
  ascending h := by simp [Ascending]
  parse_layout h rest hw := by
    obtain ⟨h1, h2⟩ := hw
    simp [gapped, h1.ofNum_toNum, h2.ofNum_toNum]
  parse_of_le b hb := by
    simp (disch := exact fits_of_le hb rfl) only [getU8_of_le, getU32_of_le, Outcome.ok_bind,
      Outcome.pure_eq]
    exact ⟨_, rfl, by simp⟩

/-- `address::CacheInfo`. -/
structure AddressCacheInfo where
  ifaPreferred : UInt32
  ifaValid : UInt32
  cstamp : UInt32
  tstamp : UInt32
deriving DecidableEq

/-- `address::CacheInfoBuffer`: getters and setters. -/
def AddressCacheInfo.codec [Host] : StructCodec AddressCacheInfo where
  len := 16
  parse buf := do
    return {
      ifaPreferred := ← getU32 buf 0, ifaValid := ← getU32 buf 4, cstamp := ← getU32 buf 8,
      tstamp := ← getU32 buf 12 }
  layout v := [
    (0, ne.u32 v.ifaPreferred), (4, ne.u32 v.ifaValid), (8, ne.u32 v.cstamp),
    (12, ne.u32 v.tstamp)]
  tiles v := by simp [Tiles]
  length_layout v := by simp
  parse_layout v rest := by simp [getU32_append]
  parse_of_le b hb := by
    simp (disch := exact fits_of_le hb rfl) only [getU32_of_le, Outcome.ok_bind, Outcome.pure_eq]
    exact ⟨_, rfl⟩

abbrev IFA_ADDRESS : UInt16 := 1
abbrev IFA_LOCAL : UInt16 := 2
abbrev IFA_LABEL : UInt16 := 3
abbrev IFA_BROADCAST : UInt16 := 4
abbrev IFA_ANYCAST : UInt16 := 5
abbrev IFA_CACHEINFO : UInt16 := 6
abbrev IFA_MULTICAST : UInt16 := 7
abbrev IFA_FLAGS : UInt16 := 8

/-- `AddressAttribute`. The flags are a bit set that keeps unknown bits. -/
inductive AddressAttribute where
  | address (v : IpAddr)
  | local_ (v : IpAddr)
  | label (v : String)
  | broadcast (v : Ipv4Addr)
  | anycast (v : Ipv6Addr)
  | cacheInfo (v : AddressCacheInfo)
  | multicast (v : Ipv6Addr)
  | flags (v : UInt32)
  | other (v : DefaultNla)
deriving DecidableEq

section

variable [PacketUtils]

namespace AddressAttribute

def kind : AddressAttribute → UInt16
  | .address _ => IFA_ADDRESS
  | .local_ _ => IFA_LOCAL
  | .label _ => IFA_LABEL
  | .broadcast _ => IFA_BROADCAST
  | .anycast _ => IFA_ANYCAST
  | .cacheInfo _ => IFA_CACHEINFO
  | .multicast _ => IFA_MULTICAST
  | .flags _ => IFA_FLAGS
  | .other nla => nla.kind

def valueLen : AddressAttribute → ℕ
  | .broadcast _ => IPV4_ADDR_LEN
  | .anycast _ | .multicast _ => IPV6_ADDR_LEN
  | .address addr | .local_ addr => ipAddrLen addr
  | .label string => (utf8 string).length + 1
  | .flags _ => 4
  | .cacheInfo _ => AddressCacheInfo.codec.len
  | .other attr => attr.valueLen

def emitValue : AddressAttribute → Emitter
  | .broadcast addr => .copy addr.val
  | .anycast addr | .multicast addr => .copy addr.val
  | .address addr | .local_ addr => .copy addr.octets
  | .label string => emitStringNul string
  | .flags value => .put 0 (ne.u32 value)
  | .cacheInfo attr => AddressCacheInfo.codec.emit attr
  | .other attr => attr.emitValue

/-- The attribute, as the attribute layer sees it. -/
def nla (a : AddressAttribute) : Nla := ⟨a.valueLen, a.kind, a.emitValue⟩

omit [PacketUtils] in
/-- An address whose version its length tells. -/
def parseAnyAddr (text : String) (payload : Bytes) : Outcome IpAddr :=
  if payload.length = IPV4_ADDR_LEN then .ok (.v4 (.ofBytes 4 payload))
  else if payload.length = IPV6_ADDR_LEN then .ok (.v6 (.ofBytes 16 payload))
  else .fail (text ++ debug payload)

omit [PacketUtils] in
/-- An address of one length. -/
def parseAddrOf (n : ℕ) (text : String) (payload : Bytes) : Outcome (Octets n) :=
  if payload.length = n then .ok (.ofBytes n payload) else .fail (text ++ debug payload)

def parse (buf : NlaBuffer) : Outcome AddressAttribute := do
  let payload ← value buf
  let kind ← PacketUtils.kind buf
  select kind [
    (IFA_ADDRESS,
      .address <$> parseAnyAddr "Invalid IFA_LOCAL, got unexpected length of payload " payload),
    (IFA_LOCAL,
      .local_ <$> parseAnyAddr "Invalid IFA_LOCAL, got unexpected length of payload " payload),
    (IFA_LABEL, .label <$> (parseString payload).context "invalid IFA_LABEL value"),
    (IFA_BROADCAST,
      .broadcast <$> parseAddrOf 4
        "Invalid IFA_BROADCAST, got unexpected length of IPv4 address payload " payload),
    (IFA_ANYCAST,
      .anycast <$> parseAddrOf 16
        "Invalid IFA_ANYCAST, got unexpected length of IPv6 address payload " payload),
    (IFA_CACHEINFO,
      .cacheInfo <$> (AddressCacheInfo.codec.parse payload).context
        ("Invalid IFA_CACHEINFO " ++ debug payload)),
    (IFA_MULTICAST,
      .multicast <$> parseAddrOf 16
        "Invalid IFA_MULTICAST, got unexpected length of IPv6 address payload " payload),
    (IFA_FLAGS, .flags <$> (parseU32 payload).context "invalid IFA_FLAGS value")]
    (.other <$> (defaultNla buf).context ("unknown NLA type " ++ toString kind))

end AddressAttribute

/-- `AddressMessage`. -/
abbrev AddressMessage := Message AddressHeader AddressAttribute

/-- How an address message is decoded and written. -/
def AddressMessage.format : MessageFormat AddressHeader AddressAttribute where
  buffer := "AddressMessageBuffer"
  header := AddressHeader.codec
  nla := AddressAttribute.nla
  parseAttributes _ := parseEach AddressAttribute.parse
  headerErr := some "failed to parse address message header"
  attributesErr := some "failed to parse address message NLAs"

/-! ## Prefixes: the model -/

/-- `prefix::CacheInfo`. -/
structure PrefixCacheInfo where
  preferredTime : UInt32
  validTime : UInt32
deriving DecidableEq

/-- `prefix::CacheInfoBuffer`: getters and setters. -/
def PrefixCacheInfo.codec : StructCodec PrefixCacheInfo where
  len := 8
  parse buf := do
    return {
      preferredTime := ← getU32 buf 0, validTime := ← getU32 buf 4 }
  layout v := [
    (0, ne.u32 v.preferredTime), (4, ne.u32 v.validTime)]
  tiles v := by simp [Tiles]
  length_layout v := by simp
  parse_layout v rest := by simp [getU32_append]
  parse_of_le b hb := by
    simp (disch := exact fits_of_le hb rfl) only [getU32_of_le, Outcome.ok_bind, Outcome.pure_eq]
    exact ⟨_, rfl⟩

/-- `PrefixHeader`. -/
structure PrefixHeader where
  prefixFamily : UInt8
  ifindex : Int32
  prefixType : UInt8
  prefixLen : UInt8
  flags : UInt8
deriving DecidableEq

/-- `PrefixMessageBuffer`. The pads are not written. -/
def PrefixHeader.codec : HeaderCodec PrefixHeader where
  len := 12
  parse buf := do
    return {
      prefixFamily := ← getU8 buf 0, ifindex := ← getI32 buf 4, prefixType := ← getU8 buf 8,
      prefixLen := ← getU8 buf 9, flags := ← getU8 buf 10 }
  layout h := [
    (0, [h.prefixFamily]), (4, ne.i32 h.ifindex), (8, [h.prefixType]), (9, [h.prefixLen]),
    (10, [h.flags])]
  WellFormed _ := True
  ascending h := by simp [Ascending]
  parse_layout h rest _ := by simp [gapped, zeros, List.replicate, getU8_append]
  parse_of_le b hb := by
    simp (disch := exact fits_of_le hb rfl) only [getU8_of_le, getI32_of_le, Outcome.ok_bind,
      Outcome.pure_eq]
    exact ⟨_, rfl, trivial⟩

abbrev PREFIX_ADDRESS : UInt16 := 1
abbrev PREFIX_CACHEINFO : UInt16 := 2

/-- `PrefixAttribute`. -/
inductive PrefixAttribute where
  | address (v : Ipv6Addr)
  | cacheInfo (v : PrefixCacheInfo)
  | other (v : DefaultNla)
deriving DecidableEq

namespace PrefixAttribute

def kind : PrefixAttribute → UInt16
  | .address _ => PREFIX_ADDRESS
  | .cacheInfo _ => PREFIX_CACHEINFO
  | .other nla => nla.kind

def valueLen : PrefixAttribute → ℕ
  | .address _ => 16
  | .cacheInfo _ => PrefixCacheInfo.codec.len
  | .other attr => attr.valueLen

def emitValue : PrefixAttribute → Emitter
  | .address addr => .copy addr.val
  | .cacheInfo info => PrefixCacheInfo.codec.emit info
  | .other attr => attr.emitValue

/-- The attribute, as the attribute layer sees it. -/
def nla (a : PrefixAttribute) : Nla := ⟨a.valueLen, a.kind, a.emitValue⟩

def parse (buf : NlaBuffer) : Outcome PrefixAttribute := do
  let payload ← value buf
  let kind ← PacketUtils.kind buf
  select kind [
    (PREFIX_ADDRESS,
      .address <$> AddressAttribute.parseAddrOf 16
        "Invalid PREFIX_ADDRESS, unexpected payload length: " payload),
    (PREFIX_CACHEINFO,
      .cacheInfo <$> (PrefixCacheInfo.codec.parse payload).context
        ("Invalid PREFIX_CACHEINFO: " ++ debug payload))]
    (.other <$> defaultNla buf)

end PrefixAttribute

/-- `PrefixMessage`. -/
abbrev PrefixMessage := Message PrefixHeader PrefixAttribute

/-- How a prefix message is decoded and written. -/
def PrefixMessage.format : MessageFormat PrefixHeader PrefixAttribute where
  buffer := "PrefixMessageBuffer"
  header := PrefixHeader.codec
  nla := PrefixAttribute.nla
  parseAttributes _ := parseEach PrefixAttribute.parse
  headerErr := some "failed to parse prefix message header"
  attributesErr := some "failed to parse prefix message attributes"

/-! ## Values -/

namespace AddressAttribute

omit [PacketUtils]

variable {text : String} {payload : Bytes}

/-- The octets of an address are read back as the address, in either
version. -/
@[simp] theorem parseAnyAddr_octets (ip : IpAddr) : parseAnyAddr text ip.octets = .ok ip := by
  cases ip with
  | v4 a => simp [parseAnyAddr, IpAddr.octets, a.property]
  | v6 a => simp [parseAnyAddr, IpAddr.octets, a.property]

@[simp] theorem parseAnyAddr_ne_panic : parseAnyAddr text payload ≠ .panic := by
  unfold parseAnyAddr
  split_ifs <;> simp

/-- The octets of an address of the given length are read back. -/
@[simp] theorem parseAddrOf_val {n : ℕ} (a : Octets n) : parseAddrOf n text a.val = .ok a := by
  simp [parseAddrOf, a.property]

@[simp] theorem parseAddrOf_ne_panic {n : ℕ} : parseAddrOf n text payload ≠ .panic := by
  unfold parseAddrOf
  split_ifs <;> simp

end AddressAttribute

omit [PacketUtils] in
/-- An address is written as its octets. -/
theorem IpAddr.writes_octets {ip : IpAddr} : Writes (.copy ip.octets) (ipAddrLen ip) ip.octets := by
  refine writes_copy ?_
  cases ip with
  | v4 a => exact a.property
  | v6 a => exact a.property

/-- The buffer of the cache info is built without a length check. -/
theorem AddressCacheInfo.parse_eq_panic_iff {payload : Bytes} :
    AddressCacheInfo.codec.parse payload = .panic ↔ payload.length < 16 := by
  refine AddressCacheInfo.codec.parse_eq_panic_iff_of_short fun h => ?_
  refine Outcome.bind_eq_panic_of _ _ getU32_ne_err fun _ => ?_
  refine Outcome.bind_eq_panic_of _ _ getU32_ne_err fun _ => ?_
  refine Outcome.bind_eq_panic_of _ _ getU32_ne_err fun _ => ?_
  rw [getU32_of_lt h, Outcome.panic_bind]

/-- So is the one of a prefix, on eight bytes. -/
theorem PrefixCacheInfo.parse_eq_panic_iff {payload : Bytes} :
    PrefixCacheInfo.codec.parse payload = .panic ↔ payload.length < 8 := by
  refine PrefixCacheInfo.codec.parse_eq_panic_iff_of_short fun h => ?_
  refine Outcome.bind_eq_panic_of _ _ getU32_ne_err fun _ => ?_
  rw [getU32_of_lt h, Outcome.panic_bind]

/-! ## Attributes of addresses -/

namespace AddressAttribute

variable {a : AddressAttribute} {nb : NlaBuffer}

/-- The kinds the decoder names. -/
def kinds : List UInt16 :=
  [IFA_ADDRESS, IFA_LOCAL, IFA_LABEL, IFA_BROADCAST, IFA_ANYCAST, IFA_CACHEINFO, IFA_MULTICAST,
    IFA_FLAGS]

/-- An unknown attribute is of none of the kinds the decoder names. -/
def Canonical : AddressAttribute → Prop
  | .other n => n.Unknown kinds
  | _ => True

/-- A canonical address attribute comes back. -/
theorem roundTrips (h : a.Canonical) : RoundTrips parse a.nla a := by
  cases a with
  | address ip => exact IpAddr.writes_octets.roundTrips_arm IFA_ADDRESS rfl rfl (by simp)
  | local_ ip => exact IpAddr.writes_octets.roundTrips_arm IFA_LOCAL rfl rfl (by simp)
  | label s => exact writes_emitStringNul.roundTrips_arm IFA_LABEL rfl rfl (by simp)
  | broadcast v => exact (writes_copy v.property).roundTrips_arm IFA_BROADCAST rfl rfl (by simp)
  | anycast v => exact (writes_copy v.property).roundTrips_arm IFA_ANYCAST rfl rfl (by simp)
  | cacheInfo v =>
    exact AddressCacheInfo.codec.writes_emit.roundTrips_arm IFA_CACHEINFO rfl rfl (by simp)
  | multicast v => exact (writes_copy v.property).roundTrips_arm IFA_MULTICAST rfl rfl (by simp)
  | flags v => exact (writes_put (length_u32 _ v)).roundTrips_arm IFA_FLAGS rfl rfl (by simp)
  | other n => exact .of_default h

/-- The parser gives canonical attributes only. -/
theorem holds_parse (hv : NlaValid nb.buffer) : (parse nb).Holds Canonical :=
  hv.holds_parse (by simp [Canonical]) fun _ hk => hk

/-- The parser panics on a short cache info and nowhere else. -/
theorem parse_eq_panic_iff (hv : NlaValid nb.buffer) : parse nb = .panic ↔
    wireKind nb = IFA_CACHEINFO ∧ (nlaValue nb.buffer).length < 16 := by
  refine (hv.parse_eq_panic_iff (by simp only [List.map]; decide)).trans ?_
  simp [AddressCacheInfo.parse_eq_panic_iff]

/-- Every byte of every payload is written. -/
theorem uniform_emitValue : Uniform a.emitValue a.valueLen := by
  cases a with
  | address ip | local_ ip => exact IpAddr.writes_octets.uniform
  | label s => exact writes_emitStringNul.uniform
  | cacheInfo v => exact AddressCacheInfo.codec.writes_emit.uniform
  | flags v => exact (writes_put (length_u32 _ v)).uniform
  | other n => exact (writes_copy rfl).uniform
  | _ v => exact (writes_copy v.property).uniform

end AddressAttribute

/-! ## Attributes of prefixes -/

namespace PrefixAttribute

variable {a : PrefixAttribute} {nb : NlaBuffer}

/-- An unknown attribute is of none of the kinds the decoder names. -/
def Canonical : PrefixAttribute → Prop
  | .other n => n.Unknown [PREFIX_ADDRESS, PREFIX_CACHEINFO]
  | _ => True

/-- The parser by the kind and the payload: no text is added to the
default's error. -/
theorem parse_of_carries {word : UInt16} {v : Bytes} (hc : Carries nb word v) :
    parse nb = select (word &&& NLA_TYPE_MASK) [
      (PREFIX_ADDRESS, .address <$> AddressAttribute.parseAddrOf 16
        "Invalid PREFIX_ADDRESS, unexpected payload length: " v),
      (PREFIX_CACHEINFO, .cacheInfo <$> (PrefixCacheInfo.codec.parse v).context
        ("Invalid PREFIX_CACHEINFO: " ++ debug v))] (.ok (.other ⟨word, v⟩)) := by
  rw [parse, hc.bind, hc.defaultNla]
  rfl

/-- A canonical prefix attribute comes back. -/
theorem roundTrips (h : a.Canonical) : RoundTrips parse a.nla a := by
  cases a with
  | address v =>
    refine (writes_copy v.property).roundTrips fun nb hc => ?_
    simp only [nla, kind] at hc
    rw [parse_of_carries hc, select_of_find rfl]
    simp
  | cacheInfo v =>
    refine PrefixCacheInfo.codec.writes_emit.roundTrips fun nb hc => ?_
    simp only [nla, kind] at hc
    rw [parse_of_carries hc, select_of_find rfl]
    simp
  | other n =>
    refine (writes_copy rfl).roundTrips fun nb hc => ?_
    rw [parse_of_carries hc, select_default (by exact h)]
    rfl

/-- The prefix parser gives canonical attributes only. -/
theorem holds_parse (hv : NlaValid nb.buffer) : (parse nb).Holds Canonical := by
  rw [parse_of_carries hv.carries]
  refine holds_select ?_ fun hk => ?_
  · simp [Canonical]
  · exact (Outcome.holds_ok _).2 hk

/-- It too panics on a short cache info and nowhere else. -/
theorem parse_eq_panic_iff (hv : NlaValid nb.buffer) : parse nb = .panic ↔
    wireKind nb = PREFIX_CACHEINFO ∧ (nlaValue nb.buffer).length < 8 := by
  rw [parse_of_carries hv.carries, select_eq_panic_iff (by simp only [List.map]; decide) (by simp)]
  simp [PrefixCacheInfo.parse_eq_panic_iff]

end PrefixAttribute

/-! ## Messages -/

namespace AddressMessage

variable {m : AddressMessage} {b : Bytes}

/-- **Decoding panics exactly when it gets to life times of less than
sixteen bytes.** -/
theorem decode_eq_panic_iff : format.decode b = .panic ↔
    ∃ nb, NlaReached AddressAttribute.parse (b.drop 8) nb ∧ wireKind nb = IFA_CACHEINFO ∧
      (nlaValue nb.buffer).length < 16 := by
  refine (format.decode_eq_panic_iff_of rfl rfl
    fun nb => AddressAttribute.parse_eq_panic_iff).trans ?_
  rfl

/-- **What was decoded is written back to the same message.** -/
theorem decode_stable (h : format.decode b = .ok m) (hs : format.Sized m) :
    ∃ out, Fills (format.emit m) (format.bufferLen m) out ∧ format.decode out = .ok m :=
  format.decode_stable_of rfl (fun _ _ a hv hp _ =>
    AddressAttribute.roundTrips (AddressAttribute.holds_parse hv a hp)) h hs

/-- **Every byte of an address message is written**, when its attributes
are. -/
theorem uniform_emit (hs : ∀ a ∈ m.attributes, Frames a.valueLen) :
    Uniform (format.emit m) (format.bufferLen m) := by
  rw [format.uniform_emit_iff (by simp [format, AddressHeader.codec, Tiles])
    (by simp [format, AddressHeader.codec]) hs]
  exact fun a _ => AddressAttribute.uniform_emitValue

end AddressMessage

namespace PrefixMessage

variable {m : PrefixMessage} {b : Bytes}

/-- **Decoding panics exactly when it gets to life times of less than
eight bytes.** -/
theorem decode_eq_panic_iff : format.decode b = .panic ↔
    ∃ nb, NlaReached PrefixAttribute.parse (b.drop 12) nb ∧ wireKind nb = PREFIX_CACHEINFO ∧
      (nlaValue nb.buffer).length < 8 := by
  refine (format.decode_eq_panic_iff_of rfl rfl
    fun nb => PrefixAttribute.parse_eq_panic_iff).trans ?_
  rfl

/-- **What was decoded is written back to the same message.** -/
theorem decode_stable (h : format.decode b = .ok m) (hs : format.Sized m) :
    ∃ out, Fills (format.emit m) (format.bufferLen m) out ∧ format.decode out = .ok m :=
  format.decode_stable_of rfl (fun _ _ a hv hp _ =>
    PrefixAttribute.roundTrips (PrefixAttribute.holds_parse hv a hp)) h hs

/-- The pads of the header stay what they were. -/
theorem not_uniform_emit : ¬ Uniform (format.emit m) (format.bufferLen m) := by
  refine format.not_uniform_emit (i := 1) (by simp [format, PrefixHeader.codec]) ?_
  simp [format, PrefixHeader.codec]

end PrefixMessage

end

end NetlinkRoute
