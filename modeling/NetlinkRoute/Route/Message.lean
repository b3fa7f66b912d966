import NetlinkRoute.Route.Uniform
import NetlinkRoute.Common.Reference
/-!
# Route — messages, written and read back

The message decoder makes two passes over the attributes: the first finds
the encapsulation type, the second decodes everything with it. On the
bytes of a message the first pass finds the message's own type
(`findEncapType_eq`), so a well-formed message comes back, unless it
names a next hop object (`decode_emit_iff`): the parser has no arm for
`RTA_NH_ID`. What was decoded is written back to the same message
(`decode_stable_of_ne_local`).
-/

namespace NetlinkRoute

open PacketUtils Emitter

/-! ## The header -/

namespace RouteHeader

variable [PacketUtils] {h : RouteHeader} {buf : Bytes}

/-- The enumerations hold the values that their numbers decode to. -/
def WellFormed (h : RouteHeader) : Prop :=
  AddressFamily.codec.Canonical h.addressFamily ∧ RouteProtocol.codec.Canonical h.protocol ∧
    RouteScope.codec.Canonical h.scope ∧ RouteType.codec.Canonical h.kind

instance (h : RouteHeader) : Decidable h.WellFormed := inferInstanceAs (Decidable (_ ∧ _))

theorem length_layout : (layoutBytes h.layout).length = bufferLen := by simp [layout]

/-- The header covers its twelve bytes. -/
theorem covers_emit : Covers h.emit (layoutBytes h.layout) :=
  covers_fields (by simp [layout, Emitter.Tiles])

/-- A well-formed header is read back, whatever follows. -/
theorem parse_layout (hw : h.WellFormed) (rest : Bytes) :
    parse (layoutBytes h.layout ++ rest) = .ok h := by
  obtain ⟨h1, h2, h3, h4⟩ := hw
  simp [parse, layout, h1.ofNum_toNum, h2.ofNum_toNum, h3.ofNum_toNum, h4.ofNum_toNum]

/-- Twelve bytes are a header, and a well-formed one. -/
theorem parse_of_le (hb : bufferLen ≤ buf.length) : ∃ h, parse buf = .ok h ∧ h.WellFormed := by
  have hb : 12 ≤ buf.length := hb
  simp (disch := omega) only [parse, getU8_of_lt, getU32_of_le, Outcome.ok_bind, Outcome.pure_eq]
  exact ⟨_, rfl, by simp [WellFormed]⟩

end RouteHeader

/-! ## The encapsulation type -/

/-- The type that the first pass finds in a list of attributes. -/
def encapTypeOf : List RouteAttribute → RouteLwEnCapType
  | [] => .none
  | .encapType v :: _ => v
  | _ :: as => encapTypeOf as

section

variable [PacketUtils]

namespace RouteAttribute

variable {ctx : RouteContext} {nb : NlaBuffer} {a : RouteAttribute}

/-- An attribute of the kind, in any context. -/
theorem parseWithParam_encapType (hv : NlaValid nb.buffer)
    (hk : nlaWord nb.buffer &&& NLA_TYPE_MASK = RTA_ENCAP_TYPE) :
    parseWithParam ctx nb = (encapType ∘ RouteLwEnCapType.codec.ofNum) <$>
      (parseU16 (nlaValue nb.buffer)).context "invalid RTA_ENCAP_TYPE value" := by
  rw [parseWithParam_of_carries hv.carries, hk, select_of_find rfl]

/-- Another kind is not decoded to an encapsulation type. -/
theorem ne_encapType (hv : NlaValid nb.buffer)
    (hk : nlaWord nb.buffer &&& NLA_TYPE_MASK ≠ RTA_ENCAP_TYPE)
    (h : parseWithParam ctx nb = .ok a) : ∀ v, a ≠ .encapType v := by
  have hq : (parseWithParam ctx nb).Holds fun a => ∀ v, a ≠ .encapType v := by
    rw [parseWithParam_of_carries hv.carries]
    refine select_ind (P := Outcome.Holds fun a : RouteAttribute => ∀ v, a ≠ .encapType v) ?_
      fun _ => ?_
    · simp only [arms, parseExpires]
      split <;> simp [hk]
    · simp [hv.carries.defaultNla]
  exact hq a h

end RouteAttribute

namespace RouteMessage

variable {family : AddressFamily} {type : RouteType} {os : List (Outcome NlaBuffer)}
  {as : List RouteAttribute} {ctx : RouteContext} {b payload : Bytes} {m : RouteMessage}

/-- The number in an attribute of the kind and size of an encapsulation
type. -/
def encapTypeNum? : Outcome NlaBuffer → Option UInt16
  | .ok nb =>
    if nlaWord nb.buffer &&& NLA_TYPE_MASK = RTA_ENCAP_TYPE ∧ (nlaValue nb.buffer).length = 2 then
      some (ne.toU16 (nlaValue nb.buffer))
    else none
  | _ => none

/-- The first valid `RTA_ENCAP_TYPE` of a payload, on the wire. -/
def firstEncapType (payload : Bytes) : Option UInt16 := (nlas payload).findSome? encapTypeNum?

/-- The type with a number that may be missing. -/
def encapTypeOfNum : Option UInt16 → RouteLwEnCapType
  | none => .none
  | some d => RouteLwEnCapType.codec.ofNum d

/-- One step of the first pass. -/
theorem findEncapType_cons {nb : NlaBuffer} (hv : NlaValid nb.buffer) :
    findEncapType family type (.ok nb :: os) = match encapTypeNum? (.ok nb) with
      | some d => .ok (RouteLwEnCapType.codec.ofNum d)
      | none => findEncapType family type os := by
  rw [findEncapType, hv.carries.kind, Outcome.ok_bind, encapTypeNum?]
  by_cases hk : nlaWord nb.buffer &&& NLA_TYPE_MASK = RTA_ENCAP_TYPE
  · rw [if_pos hk, RouteAttribute.parseWithParam_encapType hv hk]
    -- an attribute of the kind that is not two bytes is skipped, and the search goes on
    by_cases hlen : (nlaValue nb.buffer).length = 2
    · rw [if_pos ⟨hk, hlen⟩, parseU16_spec.ok _ hlen]
      rfl
    · obtain ⟨e, he⟩ := parseU16_spec.err _ hlen
      rw [if_neg fun h => hlen h.2, he]
      rfl
  · rw [if_neg hk, if_neg fun h => hk h.1]

/-- **The first pass finds the first valid type**, and never fails. -/
theorem findEncapType_nlas :
    findEncapType family type (nlas payload) = .ok (encapTypeOfNum (firstEncapType payload)) := by
  unfold firstEncapType
  have hvalid : ∀ nb, .ok nb ∈ nlas payload → NlaValid nb.buffer := fun _ => valid_of_mem_nlas
  have hpanic := panic_not_mem_nlas (b := payload)
  generalize nlas payload = os at hvalid hpanic
  induction os with
  | nil => rfl
  | cons o os ih =>
    have ih := ih (fun nb hnb => hvalid nb (by simp [hnb])) fun h => hpanic (by simp [h])
    cases o with
    | panic => simp at hpanic
    | err e => rw [findEncapType, ih]; rfl
    | ok nb =>
      rw [findEncapType_cons (hvalid nb (by simp)), List.findSome?_cons, ih]
      cases encapTypeNum? (.ok nb) <;> rfl

/-- When all attributes are decoded, the first pass finds the type of the
decoded list. -/
theorem findEncapType_eq (h : forEach (fun nla => do RouteAttribute.parseWithParam ctx (← nla))
    (nlas payload) = .ok as) : findEncapType family type (nlas payload) = .ok (encapTypeOf as) := by
  have hvalid : ∀ nb, .ok nb ∈ nlas payload → NlaValid nb.buffer := fun _ => valid_of_mem_nlas
  generalize nlas payload = os at h hvalid
  have hf := forEach_eq_ok_iff.1 h
  clear h
  -- the decoded list has the type in the place of the first attribute of the kind
  induction hf with
  | nil => rfl
  | @cons o a os as ha _ ih =>
    obtain ⟨nb, rfl, hp⟩ := (Outcome.bind_eq_ok _ _).1 ha
    have hv := hvalid nb (by simp)
    have ih := ih fun nb hnb => hvalid nb (by simp [hnb])
    rw [findEncapType_cons hv]
    by_cases hk : nlaWord nb.buffer &&& NLA_TYPE_MASK = RTA_ENCAP_TYPE
    · rw [RouteAttribute.parseWithParam_encapType hv hk, Outcome.map_eq_ok] at hp
      obtain ⟨d, hd, rfl⟩ := hp
      rw [Outcome.context_eq_ok, parseU16_spec.eq_ok_iff] at hd
      rw [encapTypeNum?, if_pos ⟨hk, hd.1⟩, hd.2]
      rfl
    · rw [encapTypeNum?, if_neg fun h => hk h.1, ih]
      have hne := RouteAttribute.ne_encapType hv hk hp
      cases a with
      | encapType v => exact absurd rfl (hne v)
      | _ => rfl

/-! ## Well-formed messages -/

/-- The context in which a message's attributes are decoded. -/
def context (m : RouteMessage) : RouteContext :=
  ⟨m.header.addressFamily, m.header.kind, encapTypeOf m.attributes⟩

/-- Every enumeration holds the value that its number decodes to, and
every attribute, at any nesting, what the header and the encapsulation
type select. -/
def WellFormed (m : RouteMessage) : Prop :=
  m.header.WellFormed ∧ ∀ a ∈ m.attributes, a.Everywhere (RouteAttribute.WellFormed m.context)

/-- Every attribute fits its length field. What is inside an attribute,
next hops included, is shorter than it. -/
def Sized (m : RouteMessage) : Prop := ∀ a ∈ m.attributes, a.valueLen ≤ 65531

/-- A message's bytes, once its attributes are known to come back. -/
theorem decode_emitted_of_roundTrips (hh : m.header.WellFormed) (hs : m.Sized)
    (ha : ∀ a ∈ m.attributes, RoundTrips (RouteAttribute.parseWithParam m.context) a.nla a) :
    ∃ out, m.emit.run (zeros m.bufferLen) = .ok out ∧ decode out = .ok m := by
  obtain ⟨out, hout, hread⟩ := forEach_nlas_emitted
    (g := fun nla => do RouteAttribute.parseWithParam m.context (← nla)) ha hs
  have hlen := RouteHeader.length_layout (h := m.header)
  have hfill := RouteHeader.covers_emit.fills_andThen_onTail hout (n := m.bufferLen)
    (by rw [hlen]; rfl)
  rw [hlen] at hfill
  refine ⟨_, hfill, ?_⟩
  rw [decode, checkedBuffer_of_le (by rw [List.length_append, hlen]; exact Nat.le_add_right _ _),
    Outcome.ok_bind, parse, RouteHeader.parse_layout hh, Outcome.context_ok, Outcome.ok_bind,
    parseAttributes, sliceFrom_ok (by rw [List.length_append, hlen]; exact Nat.le_add_right _ _),
    List.drop_left' hlen, Outcome.ok_bind, findEncapType_eq hread, Outcome.ok_bind]
  change (do
    let attributes ← (forEach (fun nla => do RouteAttribute.parseWithParam m.context (← nla))
      (nlas out)).context _
    .ok (⟨m.header, attributes⟩ : RouteMessage)) = _
  rw [hread]
  rfl

/-- How a message was decoded. -/
theorem decode_eq_ok (h : decode b = .ok m) : RouteHeader.bufferLen ≤ b.length ∧
    RouteHeader.parse b = .ok m.header ∧
    forEach (fun nla => do RouteAttribute.parseWithParam m.context (← nla))
      (nlas (b.drop RouteHeader.bufferLen)) = .ok m.attributes := by
  obtain ⟨b', hb, h⟩ := (Outcome.bind_eq_ok _ _).1 h
  obtain ⟨hle, rfl⟩ := checkedBuffer_eq_ok_iff.1 hb
  obtain ⟨header, hh, h⟩ := (Outcome.bind_eq_ok _ _).1 h
  obtain ⟨attributes, ha, h⟩ := (Outcome.bind_eq_ok _ _).1 h
  cases h
  rw [Outcome.context_eq_ok] at hh ha
  rw [parseAttributes, sliceFrom_ok hle, Outcome.ok_bind, Outcome.bind_eq_ok] at ha
  obtain ⟨et, het, ha⟩ := ha
  have hfind := @findEncapType_eq _ header.addressFamily header.kind _ _ _ ha
  rw [het] at hfind
  cases hfind
  exact ⟨hle, hh, ha⟩

/-- A decoded attribute was parsed from a valid buffer. -/
theorem exists_of_mem_attributes (h : decode b = .ok m) {a : RouteAttribute}
    (ha : a ∈ m.attributes) :
    ∃ nb, NlaValid nb.buffer ∧ RouteAttribute.parseWithParam m.context nb = .ok a := by
  obtain ⟨o, ho, hoa⟩ := exists_of_mem_forEach (decode_eq_ok h).2.2 ha
  obtain ⟨nb, rfl, hp⟩ := (Outcome.bind_eq_ok _ _).1 hoa
  exact ⟨nb, valid_of_mem_nlas ho, hp⟩

/-- No decoded route has an identifier of a next hop, at any depth. -/
theorem notNhid_of_decode (h : decode b = .ok m) :
    ∀ a ∈ m.attributes, a.Everywhere RouteAttribute.NotNhid := by
  intro a ha
  obtain ⟨nb, hv, hp⟩ := exists_of_mem_attributes h ha
  exact RouteAttribute.holds_everywhere (fun _ => RouteAttribute.holds_notNhid) hv a hp

/-- A decoded message is well formed, when it holds no local segment
routing action. -/
theorem wellFormed_of_decode (h : decode b = .ok m) (hencap : m.context.encapType ≠ .seg6Local) :
    m.WellFormed := by
  obtain ⟨hle, hh, -⟩ := decode_eq_ok h
  obtain ⟨header, hheader, hw⟩ := RouteHeader.parse_of_le hle
  rw [hh] at hheader
  cases hheader
  refine ⟨hw, fun a ha => ?_⟩
  obtain ⟨nb, hv, hp⟩ := exists_of_mem_attributes h ha
  exact RouteAttribute.holds_everywhere (fun _ hv => RouteAttribute.holds_wellFormed hv hencap) hv
    a hp

/-- **A well-formed message comes back from its own bytes exactly when no
attribute of it, at any nesting, is the id of a next hop object.** -/
theorem decode_emit_iff (hw : m.WellFormed) (hs : m.Sized) :
    (∃ out, m.emit.run (zeros m.bufferLen) = .ok out ∧ decode out = .ok m) ↔
      ∀ a ∈ m.attributes, a.Everywhere RouteAttribute.NotNhid := by
  constructor
  · rintro ⟨out, -, h⟩
    exact notNhid_of_decode h
  · intro hn
    exact decode_emitted_of_roundTrips hw.1 hs fun a ha =>
      RouteAttribute.roundTrips (hw.2 a ha) (hn a ha) (hs a ha)

/-! ## Stability -/

/-- A message is written uniformly exactly when its attributes are. -/
theorem uniform_emit_iff (hs : ∀ a ∈ m.attributes, Frames a.valueLen) :
    Uniform m.emit m.bufferLen ↔ ∀ a ∈ m.attributes, a.Everywhere RouteAttribute.Clean := by
  have hlen := RouteHeader.length_layout (h := m.header)
  have hcover := (RouteHeader.covers_emit (h := m.header)).uniform_andThen_onTail
    (n := m.bufferLen) (e := emitNlas (m.attributes.map RouteAttribute.nla)) (by rw [hlen]; rfl)
  rw [hlen] at hcover
  rw [emit, hcover, uniform_emitNlas_iff (List.forall_mem_map.2 hs), List.forall_mem_map]
  exact forall₂_congr fun a ha => RouteAttribute.uniform_emitValue_iff (hs a ha)

/-- The type that was found in the decoded list is the one on the wire. -/
theorem encapType_of_decode (h : decode b = .ok m) :
    m.context.encapType = encapTypeOfNum (firstEncapType (b.drop RouteHeader.bufferLen)) := by
  have hfind := @findEncapType_eq _ m.header.addressFamily m.header.kind _ _ _ (decode_eq_ok h).2.2
  rw [findEncapType_nlas, Outcome.ok.injEq] at hfind
  exact hfind.symm

omit [PacketUtils] in
/-- Only its own number selects the local segment. -/
theorem encapTypeOfNum_ne {n : Option UInt16} (h : n ≠ some LWTUNNEL_ENCAP_SEG6_LOCAL) :
    encapTypeOfNum n ≠ .seg6Local := by
  intro hn
  cases n with
  | none => cases hn
  | some d =>
    have hd := RouteLwEnCapType.codec.toNum_ofNum d
    rw [show RouteLwEnCapType.codec.ofNum d = .seg6Local from hn] at hd
    exact h (congrArg some hd.symm)

/-- A well-formed message without local segment routing actions reserves
no padding. -/
theorem WellFormed.uniform_emit (hw : m.WellFormed) (hs : m.Sized)
    (hencap : m.context.encapType ≠ .seg6Local) : Uniform m.emit m.bufferLen := by
  have hframes : ∀ a ∈ m.attributes, Frames a.valueLen := fun a ha => frames_of_le (hs a ha)
  refine (uniform_emit_iff hframes).2 fun a ha => (hw.2 a ha).mono fun a h => ?_
  cases a with
  | encap l => exact fun e he => (h e he).clean hencap
  | _ => trivial

/-- **What was decoded is written back to the same message**, into a
buffer with any contents, when its encapsulation is no local segment
routing action. -/
theorem decode_stable_of_ne_local
    (hencap : firstEncapType (b.drop RouteHeader.bufferLen) ≠ some LWTUNNEL_ENCAP_SEG6_LOCAL)
    (h : decode b = .ok m) (hs : m.Sized) :
    ∃ out, Writes m.emit m.bufferLen out ∧ decode out = .ok m := by
  have hne : m.context.encapType ≠ .seg6Local := by
    rw [encapType_of_decode h]
    exact encapTypeOfNum_ne hencap
  have hw := wellFormed_of_decode h hne
  obtain ⟨out, hout, hdec⟩ := (decode_emit_iff hw hs).2 (notNhid_of_decode h)
  obtain ⟨bs, hbs⟩ := hw.uniform_emit hs hne
  have heq := hbs.run_eq _ (length_zeros _)
  rw [hout] at heq
  cases heq
  exact ⟨out, hbs, hdec⟩

end RouteMessage

end

/-! ## On a little-endian host -/

namespace RouteMessage

section Concrete

attribute [local instance] Reference.little

/-- An empty header and one attribute. -/
def single (a : RouteAttribute) : RouteMessage := ⟨.default_, [a]⟩

theorem single_wellFormed {a : RouteAttribute} (hflat : ∀ nhs, a ≠ .multiPath nhs)
    (h : a.WellFormed (single a).context) : (single a).WellFormed := by
  refine ⟨by simp only [single]; decide, fun a' ha' => ?_⟩
  rw [List.mem_singleton.1 ha', RouteAttribute.everywhere_flat_iff hflat]
  exact h

/-- The id of a next hop object comes back as an unknown attribute. -/
theorem decode_emit_nhid : (single (.nhid 7)).WellFormed ∧ (single (.nhid 7)).Sized ∧
    (single (.nhid 7)).emit.run (zeros (single (.nhid 7)).bufferLen) =
      .ok (zeros 12 ++ [8, 0, 30, 0, 7, 0, 0, 0]) ∧
    decode (zeros 12 ++ [8, 0, 30, 0, 7, 0, 0, 0]) = .ok (single (.other ⟨30, [7, 0, 0, 0]⟩)) ∧
    ¬ ∃ out, (single (.nhid 7)).emit.run (zeros (single (.nhid 7)).bufferLen) = .ok out ∧
      decode out = .ok (single (.nhid 7)) := by
  have hemit : (single (.nhid 7)).emit.run (zeros (single (.nhid 7)).bufferLen) =
      .ok (zeros 12 ++ [8, 0, 30, 0, 7, 0, 0, 0]) := rfl
  have hdec : decode (zeros 12 ++ [8, 0, 30, 0, 7, 0, 0, 0]) =
      .ok (single (.other ⟨30, [7, 0, 0, 0]⟩)) := rfl
  refine ⟨single_wellFormed (by simp) trivial, by simp [single, Sized, RouteAttribute.valueLen],
    hemit, hdec, ?_⟩
  rintro ⟨out, hout, h⟩
  rw [hemit] at hout
  cases hout
  rw [hdec] at h
  simp [single] at h

/-- A route by two next hops, of which one pushes a label. -/
def byLabel : RouteMessage where
  header := ⟨.inet, 24, 0, 0, 254, .boot, .universe_, .unicast, 0⟩
  attributes := [.destination (.inet ⟨[10, 0, 1, 0], rfl⟩), .encapType .mpls,
    .multiPath [
      ⟨0, 0, 3, [.gateway (.inet ⟨[10, 0, 2, 1], rfl⟩),
        .encap [.mpls (.destination [⟨16, 0, true, 64⟩])]]⟩,
      ⟨4, 1, 7, [.gateway (.inet ⟨[10, 0, 2, 2], rfl⟩), .oif 7]⟩],
    .other ⟨0x4063, [1]⟩]

theorem byLabel_wellFormed : byLabel.WellFormed := by
  have hctx : byLabel.context = ⟨.inet, .unicast, .mpls⟩ := rfl
  have hlabel : MplsLabel.InRange ⟨16, 0, true, 64⟩ := by decide
  have htype : RouteLwEnCapType.codec.Canonical .mpls := by decide
  have hother : (⟨0x4063, [1]⟩ : DefaultNla).Unknown RouteAttribute.kinds := by decide
  refine ⟨by decide, ?_⟩
  rw [hctx]
  -- the attributes of the next hops are brought out before the others are unfolded
  simp only [byLabel, List.forall_mem_cons, RouteAttribute.everywhere_multiPath_iff]
  simp [RouteAttribute.Everywhere, RouteAttribute.WellFormed, RouteAddress.WellFormed,
    RouteLwTunnelEncap.WellFormed, RouteMplsIpTunnel.WellFormed, hlabel, htype, hother]

/-- It comes back. -/
theorem decode_emit_byLabel : byLabel.WellFormed ∧ byLabel.Sized ∧
    ∃ out, byLabel.emit.run (zeros byLabel.bufferLen) = .ok out ∧ decode out = .ok byLabel := by
  have hs : byLabel.Sized := by
    unfold Sized byLabel
    decide
  refine ⟨byLabel_wellFormed, hs, (decode_emit_iff byLabel_wellFormed hs).2 ?_⟩
  simp only [byLabel, List.forall_mem_cons, RouteAttribute.everywhere_multiPath_iff]
  simp [RouteAttribute.Everywhere, RouteAttribute.NotNhid]

/-- A flag on a known kind and a missing last byte of padding are read,
and what is written back decodes to the same message. -/
theorem decode_stable_table :
    decode (zeros 12 ++ [8, 0, 15, 0x80, 254, 0, 0, 0, 5, 0, 99, 0x40, 1]) =
      .ok ⟨.default_, [.table 254, .other ⟨0x4063, [1]⟩]⟩ ∧
    ∃ out, Writes (emit ⟨.default_, [.table 254, .other ⟨0x4063, [1]⟩]⟩) 28 out ∧
      decode out = .ok ⟨.default_, [.table 254, .other ⟨0x4063, [1]⟩]⟩ :=
  have h : decode (zeros 12 ++ [8, 0, 15, 0x80, 254, 0, 0, 0, 5, 0, 99, 0x40, 1]) =
      .ok ⟨.default_, [.table 254, .other ⟨0x4063, [1]⟩]⟩ := rfl
  ⟨h, decode_stable_of_ne_local (by decide) h (by
    simp [Sized, RouteAttribute.valueLen, DefaultNla.valueLen])⟩

end Concrete

end RouteMessage

end NetlinkRoute
