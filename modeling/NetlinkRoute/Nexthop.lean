import NetlinkRoute.Common.Message
import NetlinkRoute.Common.Reference
import NetlinkRoute.Route.RoundTrip
/-!
# Next hop objects

Next hops that routes refer to by an id, alone or in weighted groups. The
encoder writes twelve kinds of attributes and the decoder has no arm for
one of them, the encapsulation, so a message comes back from its own
bytes exactly when it has none (`decode_emit_nexthop_iff`). What was
decoded has none and is written back to the same message
(`decode_stable`).
-/

namespace NetlinkRoute

open PacketUtils Emitter

/-! ## The model -/

/-- `NexthopHeader`. The flags are a bit set that keeps unknown bits. -/
structure NexthopHeader where
  addressFamily : AddressFamily
  scope : RouteScope
  protocol : RouteProtocol
  resvd : UInt8
  flags : UInt32
deriving DecidableEq

/-- The enumerations hold the values that their numbers decode to. -/
def NexthopHeader.WellFormed (h : NexthopHeader) : Prop :=
  AddressFamily.codec.Canonical h.addressFamily ∧ RouteScope.codec.Canonical h.scope ∧
    RouteProtocol.codec.Canonical h.protocol

instance NexthopHeader.decidableWellFormed (h : NexthopHeader) : Decidable h.WellFormed :=
  inferInstanceAs (Decidable (_ ∧ _))

/-- `NexthopMessageBuffer`. -/
def NexthopHeader.codec [Host] : HeaderCodec NexthopHeader where
  len := 8
  parse buf := do
    return {
      addressFamily := AddressFamily.codec.ofNum (← getU8 buf 0)
      protocol := RouteProtocol.codec.ofNum (← getU8 buf 2)
      scope := RouteScope.codec.ofNum (← getU8 buf 1)
      resvd := ← getU8 buf 3
      flags := ← getU32 buf 4 }
  layout h := [
    (0, [AddressFamily.codec.toNum h.addressFamily]), (1, [RouteScope.codec.toNum h.scope]),
    (2, [RouteProtocol.codec.toNum h.protocol]), (3, [h.resvd]), (4, ne.u32 h.flags)]
  WellFormed := NexthopHeader.WellFormed
  ascending h := by simp [Ascending]
  parse_layout h rest hw := by
    obtain ⟨h1, h2, h3⟩ := hw
    simp [gapped, h1.ofNum_toNum, h2.ofNum_toNum, h3.ofNum_toNum]
  parse_of_le b hb := by
    simp (disch := exact fits_of_le hb rfl) only [getU8_of_le, getU32_of_le, Outcome.ok_bind,
      Outcome.pure_eq]
    exact ⟨_, rfl, by simp [NexthopHeader.WellFormed]⟩

section

variable [PacketUtils]

/-- `NexthopGroup`: a member of a group. -/
structure NexthopGroup where
  id : UInt32
  weight : UInt8
  weightHigh : UInt8
  resvd2 : UInt16
deriving DecidableEq

/-- `NexthopGroup::parse` and its emitter. -/
def NexthopGroup.codec : StructCodec NexthopGroup where
  len := 8
  parse payload := do
    return {
      id := ← parseU32 (← slice payload 0 4)
      weight := ← getU8 payload 4
      weightHigh := ← getU8 payload 5
      resvd2 := ← parseU16 (← slice payload 6 8) }
  layout v := [(0, ne.u32 v.id), (4, [v.weight]), (5, [v.weightHigh]), (6, ne.u16 v.resvd2)]
  tiles v := by simp [Tiles]
  length_layout v := by simp
  parse_layout v rest := by
    have h0 : ∀ c : Bytes, slice (ne.u32 v.id ++ c) 0 4 = .ok (ne.u32 v.id) :=
      fun c => slice_append_left (by simp)
    have h1 : ∀ c : Bytes,
        slice (ne.u32 v.id ++ (v.weight :: v.weightHigh :: (ne.u16 v.resvd2 ++ c))) 6 8 =
          .ok (ne.u16 v.resvd2) := fun c => by
      rw [slice_append_right (by simp) (by omega), length_u32,
        show (v.weight :: v.weightHigh :: (ne.u16 v.resvd2 ++ c)) =
          [v.weight, v.weightHigh] ++ (ne.u16 v.resvd2 ++ c) from rfl,
        slice_append_right (by simp) (by omega)]
      exact slice_append_left (by simp)
    simp [h0, h1, getU8_append]
  parse_of_le b h := by
    have h4 : ((b.drop 0).take (4 - 0)).length = 4 := by
      rw [List.length_take, List.length_drop]
      omega
    have h2 : ((b.drop 6).take (8 - 6)).length = 2 := by
      rw [List.length_take, List.length_drop]
      omega
    rw [slice_ok (by omega) (by omega), slice_ok (by omega) h, Outcome.ok_bind,
      parseU32_spec.ok _ h4, Outcome.ok_bind, getU8_of_lt (by omega), getU8_of_lt (by omega),
      Outcome.ok_bind, Outcome.ok_bind, Outcome.ok_bind, parseU16_spec.ok _ h2]
    exact ⟨_, rfl⟩

/-- The loop of `NHA_GROUP`: members of eight bytes while there are eight
bytes left. -/
def NexthopGroup.parseGroups (payload : Bytes) : Outcome (List NexthopGroup) :=
  forEach (fun i => do NexthopGroup.codec.parse (← slice payload (8 * i) (8 * i + 8)))
    (List.range (payload.length / 8))

abbrev NHA_ID : UInt16 := 1
abbrev NHA_GROUP : UInt16 := 2
abbrev NHA_GROUP_TYPE : UInt16 := 3
abbrev NHA_BLACKHOLE : UInt16 := 4
abbrev NHA_OIF : UInt16 := 5
abbrev NHA_GATEWAY : UInt16 := 6
abbrev NHA_ENCAP_TYPE : UInt16 := 7
abbrev NHA_ENCAP : UInt16 := 8
abbrev NHA_GROUPS : UInt16 := 9
abbrev NHA_MASTER : UInt16 := 10
abbrev NHA_FDB : UInt16 := 11

/-- The attributes of a next hop object. -/
inductive NexthopAttribute where
  | id (v : UInt32)
  | group (v : List NexthopGroup)
  | groupType (v : UInt16)
  | blackhole
  | oif (v : UInt32)
  | gateway (v : RouteAddress)
  | encapType (v : UInt16)
  | encap (v : List RouteLwTunnelEncap)
  | groups
  | master (v : UInt32)
  | fdb
  | other (v : DefaultNla)
deriving DecidableEq

namespace NexthopAttribute

def kind : NexthopAttribute → UInt16
  | .id _ => NHA_ID
  | .group _ => NHA_GROUP
  | .groupType _ => NHA_GROUP_TYPE
  | .blackhole => NHA_BLACKHOLE
  | .oif _ => NHA_OIF
  | .gateway _ => NHA_GATEWAY
  | .encapType _ => NHA_ENCAP_TYPE
  | .encap _ => NHA_ENCAP ||| NLA_F_NESTED
  | .groups => NHA_GROUPS
  | .master _ => NHA_MASTER
  | .fdb => NHA_FDB
  | .other nla => nla.kind

def valueLen : NexthopAttribute → ℕ
  | .id _ | .oif _ | .master _ => 4
  | .group v => (v.map fun _ => NexthopGroup.codec.len).sum
  | .groupType _ | .encapType _ => 2
  | .blackhole | .groups | .fdb => 0
  | .encap v => nlasLen (v.map RouteLwTunnelEncap.nla)
  | .gateway addr => addr.bufferLen
  | .other attr => attr.valueLen

def emitValue : NexthopAttribute → Emitter
  | .id value | .oif value | .master value => .put 0 (ne.u32 value)
  | .group v => inTurn (v.map fun grp => (NexthopGroup.codec.len, NexthopGroup.codec.emit grp))
  | .groupType value | .encapType value => .put 0 (ne.u16 value)
  | .blackhole | .groups | .fdb => .skip
  | .encap nlas => emitNlas (nlas.map RouteLwTunnelEncap.nla)
  | .gateway addr => addr.emit
  | .other attr => attr.emitValue

/-- The attribute, as the attribute layer sees it. -/
def nla (a : NexthopAttribute) : Nla := ⟨a.valueLen, a.kind, a.emitValue⟩

def parseWithParam (addressFamily : AddressFamily) (buf : NlaBuffer) :
    Outcome NexthopAttribute := do
  let payload ← value buf
  let kind ← PacketUtils.kind buf
  select kind [
    (NHA_ID, .id <$> (parseU32 payload).context "invalid NHA_ID value"),
    (NHA_GROUP,
      .group <$> NexthopGroup.parseGroups payload),
    (NHA_GROUP_TYPE, .groupType <$> (parseU16 payload).context "invalid NHA_GROUP_TYPE value"),
    (NHA_BLACKHOLE, .ok .blackhole),
    (NHA_OIF, .oif <$> (parseU32 payload).context "invalid NHA_OIF value"),
    (NHA_GATEWAY, .gateway <$> RouteAddress.parse addressFamily payload),
    (NHA_ENCAP_TYPE, .encapType <$> (parseU16 payload).context "invalid NHA_ENCAP_TYPE value"),
    (NHA_GROUPS, .ok .groups),
    (NHA_MASTER, .master <$> (parseU32 payload).context "invalid NHA_MASTER value"),
    (NHA_FDB, .ok .fdb)]
    (.other <$> (defaultNla buf).context "invalid link NLA value (unknown type)")

end NexthopAttribute

/-- `NexthopMessage`. -/
abbrev NexthopMessage := Message NexthopHeader NexthopAttribute

/-- How a next hop message is decoded and written. -/
def NexthopMessage.format : MessageFormat NexthopHeader NexthopAttribute where
  buffer := "NexthopMessageBuffer"
  header := NexthopHeader.codec
  nla := NexthopAttribute.nla
  parseAttributes header := parseEach (NexthopAttribute.parseWithParam header.addressFamily)
  headerErr := some "failed to parse nexthop message header"
  attributesErr := some "failed to parse nexthop message NLAs"

/-! ## Groups -/

namespace NexthopGroup

variable {l : List NexthopGroup} {payload : Bytes}

/-- The members of a group are written one behind the other. -/
theorem writes_emit_groups :
    Writes (inTurn (l.map fun g => (NexthopGroup.codec.len, NexthopGroup.codec.emit g)))
      (l.map fun _ => NexthopGroup.codec.len).sum (l.flatMap NexthopGroup.codec.bytes) :=
  writes_inTurn_map fun _ _ => NexthopGroup.codec.writes_emit

/-- The members of a slice are those of its first eight bytes and of the
rest. -/
theorem parseGroups_append {g : NexthopGroup} :
    parseGroups (NexthopGroup.codec.bytes g ++ payload) =
      (do let gs ← parseGroups payload; .ok (g :: gs)) := by
  have h8 : (NexthopGroup.codec.bytes g).length = 8 := NexthopGroup.codec.length_bytes
  have hcount : (NexthopGroup.codec.bytes g ++ payload).length / 8 = payload.length / 8 + 1 := by
    rw [List.length_append, h8]
    omega
  have hfirst : slice (NexthopGroup.codec.bytes g ++ payload) (8 * 0) (8 * 0 + 8) =
      .ok (NexthopGroup.codec.bytes g) := slice_append_left h8.symm
  have hlater : ∀ i, slice (NexthopGroup.codec.bytes g ++ payload) (8 * (i + 1)) (8 * (i + 1) + 8) =
      slice payload (8 * i) (8 * i + 8) := fun i => by
    rw [slice_append_right (by omega) (by omega), h8]
    congr 1
  rw [parseGroups, hcount, List.range_succ_eq_map, forEach_cons, hfirst, Outcome.ok_bind,
    StructCodec.parse_bytes, Outcome.ok_bind, forEach_map]
  simp only [hlater]
  rfl

/-- They are read back in that order. -/
theorem parseGroups_flatMap : parseGroups (l.flatMap NexthopGroup.codec.bytes) = .ok l := by
  induction l with
  | nil => simp [parseGroups]
  | cons g l ih => rw [List.flatMap_cons, parseGroups_append, ih]; rfl

@[simp] theorem parseGroups_ne_panic : parseGroups payload ≠ .panic := by
  refine forEach_ne_panic fun i hi => ?_
  have hlt := List.mem_range.1 hi
  have hle : 8 * i + 8 ≤ payload.length := by omega
  rw [slice_ok (by omega) hle, Outcome.ok_bind]
  refine NexthopGroup.codec.parse_ne_panic ?_
  rw [List.length_take, List.length_drop, show NexthopGroup.codec.len = 8 from rfl]
  omega

end NexthopGroup

/-! ## Attributes -/

namespace NexthopAttribute

variable {family : AddressFamily} {a : NexthopAttribute} {nb : NlaBuffer}

/-- The kinds the decoder names. -/
def kinds : List UInt16 :=
  [NHA_ID, NHA_GROUP, NHA_GROUP_TYPE, NHA_BLACKHOLE, NHA_OIF, NHA_GATEWAY, NHA_ENCAP_TYPE,
    NHA_GROUPS, NHA_MASTER, NHA_FDB]

/-- The attribute is no encapsulation. -/
def NotEncap (a : NexthopAttribute) : Prop := ∀ l, a ≠ .encap l

/-- What comes back from its own bytes. -/
def Readable (family : AddressFamily) : NexthopAttribute → Prop
  | .gateway addr => addr.WellFormed family
  | .encap _ => False
  | .other n => n.Unknown kinds
  | _ => True

/-- The values are those the attribute's number and the family allow: an
address of the family, an encapsulation of the message's type, and an
unknown attribute that is of none of the kinds the encoder writes. -/
def Canonical (family : AddressFamily) (encapType : RouteLwEnCapType) : NexthopAttribute → Prop
  | .gateway addr => addr.WellFormed family
  | .encap l => ∀ e ∈ l, e.WellFormed encapType
  | .other n => n.Unknown (NHA_ENCAP :: kinds)
  | _ => True

/-- Every byte of the payload is written. -/
def Clean : NexthopAttribute → Prop
  | .encap l => ∀ e ∈ l, e.Clean
  | _ => True

omit [PacketUtils] in
/-- A canonical attribute other than the encapsulation is one the parser can
give. -/
theorem Canonical.readable {encapType : RouteLwEnCapType} (h : a.Canonical family encapType)
    (hn : a.NotEncap) : a.Readable family := by
  cases a with
  | encap l => exact absurd rfl (hn l)
  | other n => exact fun hk => h (List.mem_cons_of_mem _ hk)
  | gateway addr => exact h
  | _ => trivial

/-- All of them are, but for the padding in an encapsulation. -/
theorem uniform_emitValue_iff (hs : Frames a.valueLen) :
    Uniform a.emitValue a.valueLen ↔ a.Clean := by
  cases a with
  | group l => exact iff_of_true NexthopGroup.writes_emit_groups.uniform trivial
  | gateway addr => exact iff_of_true RouteAddress.writes_emit.uniform trivial
  | encap l =>
    rw [emitValue, valueLen, uniform_emitNlas_map_iff hs]
    exact forall₂_congr fun e he => RouteLwTunnelEncap.uniform_emitValue_iff (frames_of_mem hs he)
  | _ => simp [emitValue, valueLen, Clean]

/-- Such an attribute comes back. -/
theorem roundTrips (h : a.Readable family) : RoundTrips (parseWithParam family) a.nla a := by
  cases a with
  | group l =>
    exact NexthopGroup.writes_emit_groups.roundTrips_arm NHA_GROUP rfl rfl
      (by simp [NexthopGroup.parseGroups_flatMap])
  | gateway addr =>
    exact RouteAddress.writes_emit.roundTrips_arm NHA_GATEWAY rfl rfl
      (by simp [RouteAddress.parse_bytes h])
  | encap l => exact h.elim
  | blackhole => exact writes_skip.roundTrips_arm NHA_BLACKHOLE rfl rfl rfl
  | groups => exact writes_skip.roundTrips_arm NHA_GROUPS rfl rfl rfl
  | fdb => exact writes_skip.roundTrips_arm NHA_FDB rfl rfl rfl
  | groupType v => exact writes_u16.roundTrips_arm NHA_GROUP_TYPE rfl rfl (by simp)
  | encapType v => exact writes_u16.roundTrips_arm NHA_ENCAP_TYPE rfl rfl (by simp)
  | id v => exact writes_u32.roundTrips_arm NHA_ID rfl rfl (by simp)
  | oif v => exact writes_u32.roundTrips_arm NHA_OIF rfl rfl (by simp)
  | master v => exact writes_u32.roundTrips_arm NHA_MASTER rfl rfl (by simp)
  | other n => exact .of_default h

/-- The parser gives no others. -/
theorem holds_parseWithParam (hv : NlaValid nb.buffer) :
    (parseWithParam family nb).Holds (Readable family) := by
  rw [parseWithParam, hv.carries.bind]
  refine holds_select ?_ fun hk => ?_
  · have haddr := @RouteAddress.holds_parse family (nlaValue nb.buffer)
    simp [Readable, haddr]
  · rw [hv.carries.defaultNla]
    exact (Outcome.holds_ok _).2 hk

/-- It does not panic. -/
theorem parseWithParam_ne_panic (hv : NlaValid nb.buffer) : parseWithParam family nb ≠ .panic := by
  rw [parseWithParam, hv.carries.bind]
  refine select_ne_panic ?_ ?_
  · simp
  · simp [hv.carries.defaultNla]

end NexthopAttribute

/-! ## Messages -/

namespace NexthopMessage

variable {m : NexthopMessage} {b : Bytes}

/-- The encapsulation type of a message, none where it has no such
attribute. -/
def encapTypeOf : List NexthopAttribute → RouteLwEnCapType
  | [] => .none
  | .encapType v :: _ => RouteLwEnCapType.codec.ofNum v
  | _ :: as => encapTypeOf as

/-- Every value is one that its number, the family and the encapsulation
type allow. -/
def Canonical (m : NexthopMessage) : Prop :=
  m.header.WellFormed ∧ ∀ a ∈ m.attributes,
    a.Canonical m.header.addressFamily (encapTypeOf m.attributes)

/-- The attributes of a decoded message are readable under its family. -/
theorem readable_of_decode (h : format.decode b = .ok m) :
    ∀ a ∈ m.attributes, a.Readable m.header.addressFamily := by
  intro a ha
  obtain ⟨nb, hv, hp⟩ := format.exists_of_mem_decode rfl h ha
  exact NexthopAttribute.holds_parseWithParam hv a hp

/-- **A canonical message comes back from its own bytes exactly when it
has no encapsulation.** -/
theorem decode_emit_nexthop_iff (hw : Canonical m) (hs : format.Sized m) :
    (∃ out, (format.emit m).run (zeros (format.bufferLen m)) = .ok out ∧
      format.decode out = .ok m) ↔ ∀ a ∈ m.attributes, a.NotEncap := by
  constructor
  · rintro ⟨out, -, h⟩ a ha l rfl
    exact readable_of_decode h _ ha
  · intro hn
    exact format.decode_emitted_of rfl hw.1 hs fun a ha =>
      NexthopAttribute.roundTrips ((hw.2 a ha).readable (hn a ha))

/-- The decoder of a next hop does not panic. -/
theorem decode_ne_panic : format.decode b ≠ .panic :=
  format.decode_ne_panic_of rfl fun _ _ hv => NexthopAttribute.parseWithParam_ne_panic hv

/-- **What was decoded is written back to the same message.** -/
theorem decode_stable (h : format.decode b = .ok m) (hs : format.Sized m) :
    ∃ out, Fills (format.emit m) (format.bufferLen m) out ∧ format.decode out = .ok m :=
  format.decode_stable_of rfl (fun _ _ a hv hp _ =>
    NexthopAttribute.roundTrips (NexthopAttribute.holds_parseWithParam hv a hp)) h hs

/-- A message is written uniformly exactly when its attributes are. -/
theorem uniform_emit_iff (hs : ∀ a ∈ m.attributes, Frames a.valueLen) :
    Uniform (format.emit m) (format.bufferLen m) ↔ ∀ a ∈ m.attributes, a.Clean := by
  rw [format.uniform_emit_iff (by simp [format, NexthopHeader.codec, Tiles])
    (by simp [format, NexthopHeader.codec]) hs]
  exact forall₂_congr fun a ha => NexthopAttribute.uniform_emitValue_iff (hs a ha)

end NexthopMessage

end

/-! ## On a little-endian host -/

namespace NexthopMessage

section Concrete

attribute [local instance] Reference.little

/-- An IPv4 next hop object with these attributes. -/
def ofAttributes (as : List NexthopAttribute) : NexthopMessage :=
  ⟨⟨.inet, .universe_, .static, 0, 0⟩, as⟩

/-- A label to push, as the encapsulation of a next hop. -/
def pushLabel : List NexthopAttribute :=
  [.encapType 1, .encap [.mpls (.destination [⟨16, 0, true, 0⟩])]]

/-- The encapsulation comes back as an unknown attribute. -/
theorem decode_emit_encap : Canonical (ofAttributes pushLabel) ∧
    format.Sized (ofAttributes pushLabel) ∧
    (format.emit (ofAttributes pushLabel)).run (zeros (format.bufferLen (ofAttributes pushLabel))) =
      .ok [2, 0, 4, 0, 0, 0, 0, 0, 6, 0, 7, 0, 1, 0, 0, 0,
        12, 0, 8, 0x80, 8, 0, 1, 0, 0, 1, 1, 0] ∧
    format.decode [2, 0, 4, 0, 0, 0, 0, 0, 6, 0, 7, 0, 1, 0, 0, 0,
        12, 0, 8, 0x80, 8, 0, 1, 0, 0, 1, 1, 0] =
      .ok (ofAttributes [.encapType 1, .other ⟨0x8008, [8, 0, 1, 0, 0, 1, 1, 0]⟩]) ∧
    ofAttributes [.encapType 1, .other ⟨0x8008, [8, 0, 1, 0, 0, 1, 1, 0]⟩] ≠
      ofAttributes pushLabel := by
  refine ⟨⟨by decide, ?_⟩, ?_, rfl, rfl, by decide⟩
  · have hlabel : RouteMplsIpTunnel.WellFormed (.destination [⟨16, 0, true, 0⟩]) := by
      simp only [RouteMplsIpTunnel.WellFormed]
      decide
    simp only [ofAttributes, pushLabel, NexthopAttribute.Canonical, encapTypeOf,
      List.forall_mem_cons, List.not_mem_nil, false_implies, implies_true, and_true, true_and]
    exact hlabel
  · simp [ofAttributes, pushLabel, MessageFormat.Sized, format, NexthopAttribute.nla,
      NexthopAttribute.valueLen]
    decide

/-- A group of two comes back. -/
theorem decode_emit_group : Canonical (ofAttributes [.id 15, .group [⟨2, 0, 0, 0⟩, ⟨7, 1, 0, 0⟩]]) ∧
    ∃ out, (format.emit (ofAttributes [.id 15, .group [⟨2, 0, 0, 0⟩, ⟨7, 1, 0, 0⟩]])).run
        (zeros (format.bufferLen (ofAttributes [.id 15, .group [⟨2, 0, 0, 0⟩, ⟨7, 1, 0, 0⟩]]))) =
      .ok out ∧
      format.decode out = .ok (ofAttributes [.id 15, .group [⟨2, 0, 0, 0⟩, ⟨7, 1, 0, 0⟩]]) := by
  have hw : Canonical (ofAttributes [.id 15, .group [⟨2, 0, 0, 0⟩, ⟨7, 1, 0, 0⟩]]) :=
    ⟨by decide, by simp [ofAttributes, NexthopAttribute.Canonical]⟩
  refine ⟨hw, (decode_emit_nexthop_iff hw ?_).2 ?_⟩
  · simp [ofAttributes, MessageFormat.Sized, format, NexthopAttribute.nla,
      NexthopAttribute.valueLen, NexthopGroup.codec]
  · simp [ofAttributes, NexthopAttribute.NotEncap]

end Concrete

end NexthopMessage

end NetlinkRoute
