import NetlinkRoute.Route.Order
import NetlinkRoute.Link.Grammar
import NetlinkRoute.Link.Message
import NetlinkRoute.Tc.ActionOrder
import NetlinkRoute.Tc.Message
/-!
# Messages — attributes that are not known

Five decoders of attribute lists carry something from one attribute to
another: routes their encapsulation type, the information about a link the
kinds it has met, disciplines their kind, actions the one kind among their
attributes, and links the family of their header. None of them loses it on
an attribute of a kind that it does not name: any number of these, anywhere
in the list, come back with their kind words and payloads, and all others
as without them (`unknown_transparent`).
-/

namespace NetlinkRoute

open PacketUtils

section

variable [PacketUtils] {hdr : Bytes}

/-! ## Routes -/

omit [PacketUtils] in
/-- The message with other attributes. -/
def RouteMessage.overAttributes (f : List RouteAttribute → List RouteAttribute)
    (m : RouteMessage) : RouteMessage :=
  { m with attributes := f m.attributes }

/-- An unknown attribute in a route is kept where it stands. -/
theorem RouteMessage.transparent (hlen : hdr.length = RouteHeader.bufferLen) :
    Transparent RouteAttribute.kinds .other RouteMessage.overAttributes
      fun l => RouteMessage.decode (hdr ++ encodeNlas l) := by
  intro l ins hl hins
  -- the search for the encapsulation type goes past what is put in
  have htype : ∀ p ∈ ins, encapTypeIn p.2 = none := by
    intro p hp
    refine if_neg fun h => (hins p hp).2 ?_
    rw [h.1]
    decide
  have hctx : ∀ header, contextOf header (insertEach l ins) = contextOf header l := by
    intro header
    rw [contextOf, findSome?_insertEach htype, contextOf]
  dsimp only
  rw [decode_encodeNlas hlen hl, decode_encodeNlas hlen (hl.insertEach hins)]
  obtain ⟨header, hh, -⟩ := RouteHeader.parse_of_le (Nat.le_of_eq hlen.symm)
  have hother : ∀ p ∈ ins, RouteAttribute.parseWithParam (contextOf header l) (nlaOf p.2) =
      .ok (otherOf .other p.2) := fun p hp =>
    RouteAttribute.parseWithParam_other (carries_nlaOf (hins p hp).1) (hins p hp).2
  have hloop : forEach (fun a => RouteAttribute.parseWithParam (contextOf header l) (nlaOf a))
      (insertEach l ins) = _ := forEach_insertEach hother
  rw [hh, Outcome.ok_bind, Outcome.ok_bind, hctx, hloop]
  cases forEach (fun a => RouteAttribute.parseWithParam (contextOf header l) (nlaOf a)) l <;> rfl

/-! ## Links -/

namespace LinkAttribute

variable {family : AddressFamily}

/-- An attribute of a link is parsed from its kind word and payload. -/
theorem local_parseWithParam : Local (parseWithParam family) := by
  intro nb nb' word v h h'
  have hproto : parseProtoInfo family nb v = parseProtoInfo family nb' v := by
    unfold parseProtoInfo
    rw [local_defaultNla h h']
  rw [parseWithParam, parseWithParam, parseOver, parseOver, h.bind, h'.bind, arms, arms, hproto,
    local_defaultNla h h']

/-- An unknown one is kept as it is. -/
theorem parseWithParam_other {nb : NlaBuffer} {word : UInt16} {v : Bytes} (h : Carries nb word v)
    (hk : word &&& NLA_TYPE_MASK ∉ kinds) :
    parseWithParam family nb = .ok (.other ⟨word, v⟩) := by
  rw [parseWithParam, parseOver, h.bind, select_default (by exact hk), h.defaultNla]
  rfl

end LinkAttribute

/-- An unknown attribute in a link message is kept where it stands. -/
theorem LinkMessage.transparent (hlen : hdr.length = LinkHeader.codec.len) :
    Transparent LinkAttribute.kinds .other Message.overAttributes
      fun l => LinkMessage.decode (hdr ++ encodeNlas l) := by
  have hhdr : ∀ rest, LinkHeader.codec.parse (hdr ++ rest) = LinkHeader.codec.parse hdr := by
    intro rest
    have hlen : hdr.length = 16 := hlen
    simp (disch := omega) only [LinkHeader.codec, getU8_inside, getU16_inside, getU32_inside]
  have h := MessageFormat.transparent LinkMessage.format hlen hhdr fun header =>
    transparent_parseEach (@LinkAttribute.local_parseWithParam _ header.interfaceFamily)
      fun _ _ _ => LinkAttribute.parseWithParam_other
  simpa only [decode_eq] using h

/-! ## Information about links -/

namespace LinkInfo

variable {parsePeer : Bytes → Outcome LinkMessage} {mem : Memory}

/-- The loop over link info keeps an unknown item and its memory. -/
theorem passesOver_step : PassesOver kinds .other (step parsePeer) := by
  intro mem nb word v h hk
  rw [step, h.kind, Outcome.ok_bind, select_default (by exact hk), h.defaultNla]
  rfl

end LinkInfo

/-- So an unknown item is kept where it stands. -/
theorem VecLinkInfo.transparent : Transparent LinkInfo.kinds .other id
    fun l => VecLinkInfo.parse (encodeNlas l) :=
  transparent_forEachFrom (fun _ => LinkInfo.local_step) LinkInfo.passesOver_step

/-! ## Disciplines and filters -/

namespace TcAttribute

variable {kind : String}

theorem local_parseWithParam : Local (parseWithParam · kind) := by
  intro nb nb' word v h h'
  have hoptions : VecTcOption.parseWithParam nb kind = VecTcOption.parseWithParam nb' kind := by
    rw [VecTcOption.parseWithParam, VecTcOption.parseWithParam, local_value h h',
      local_defaultNla h h']
  have hstats : TcXstats.parseWithParam nb kind = TcXstats.parseWithParam nb' kind := by
    rw [TcXstats.parseWithParam, TcXstats.parseWithParam, local_value h h']
  simp only [parseWithParam]
  rw [h.bind, h'.bind, hoptions, hstats, local_defaultNla h h']

/-- A step of traffic control looks at one attribute and the kind. -/
theorem local_step : Local (step kind) := by
  intro nb nb' word v h h'
  have hparse : parseWithParam nb kind = parseWithParam nb' kind := local_parseWithParam h h'
  rw [step, step, hparse]

/-- It keeps an unknown attribute and the kind. -/
theorem passesOver_step : PassesOver kinds .other step := by
  intro kind nb word v h hk
  rw [step, parseWithParam, h.bind, select_default (by exact hk), h.defaultNla]
  rfl

end TcAttribute

/-- An unknown attribute in a message of traffic control is kept where it
stands. -/
theorem TcMessage.transparent (hlen : hdr.length = TcHeader.codec.len) :
    Transparent TcAttribute.kinds .other Message.overAttributes
      fun l => TcMessage.decode (hdr ++ encodeNlas l) := by
  have hhdr : ∀ rest, TcHeader.codec.parse (hdr ++ rest) = TcHeader.codec.parse hdr := by
    intro rest
    have hlen : hdr.length = 20 := hlen
    simp (disch := omega) only [TcHeader.codec, getU8_inside, getU32_inside, getI32_inside]
  exact TcMessage.format.transparent hlen hhdr fun _ =>
    transparent_forEachFrom (fun _ => TcAttribute.local_step) TcAttribute.passesOver_step

/-! ## Actions -/

namespace TcActionAttribute

variable {kind : String}

/-- An unknown attribute of an action is kept as it is. -/
theorem parseWithParam_other {nb : NlaBuffer} {word : UInt16} {v : Bytes} (h : Carries nb word v)
    (hk : word &&& NLA_TYPE_MASK ∉ kinds) :
    parseWithParam nb kind = .ok (.other ⟨word, v⟩) :=
  (parseWithParam_eq_ok_iff (a := (word, v)) h).2 (.other hk)

end TcActionAttribute

namespace TcAction

variable {l : List (UInt16 × Bytes)} {ins : List (ℕ × UInt16 × Bytes)}

omit [PacketUtils] in
/-- The action with other attributes. -/
def overAttributes (f : List TcActionAttribute → List TcActionAttribute) (a : TcAction) :
    TcAction :=
  { a with attributes := f a.attributes }

/-- The search for the kind finds nothing in what is put in. -/
theorem findKind_insertEach (hl : Consistent l) (hins : UnknownTo TcActionAttribute.kinds ins) :
    findKind (encodeNlas (insertEach l ins)) = findKind (encodeNlas l) := by
  -- what is put in is of another kind, so it gives no name
  have hnone : ∀ p ∈ ins, parseKind (.ok (nlaOf p.2)) = .ok [] := by
    intro p hp
    obtain ⟨hlen, hk⟩ := hins p hp
    rw [parseKind, Outcome.context_ok, Outcome.ok_bind, (carries_nlaOf hlen).kind, Outcome.ok_bind,
      if_neg fun h => hk (by rw [h]; decide)]
  have hloop : forEach (fun a => parseKind (.ok (nlaOf a))) (insertEach l ins) =
      (insertEach · (ins.map (Prod.map id fun _ => []))) <$>
        forEach (fun a => parseKind (.ok (nlaOf a))) l := forEach_insertEach hnone
  have hflat : ∀ ls : List (List String), (insertEach ls
      (ins.map (Prod.map id fun _ => ([] : List String)))).flatten = ls.flatten := by
    intro ls
    refine flatten_insertEach fun p hp => ?_
    obtain ⟨q, -, rfl⟩ := List.mem_map.1 hp
    rfl
  rw [findKind, findKind, forEach_encodeNlas local_parseKind hl,
    forEach_encodeNlas local_parseKind (hl.insertEach hins), hloop]
  cases forEach (fun a => parseKind (.ok (nlaOf a))) l with
  | ok ls => simp only [Outcome.map_ok, hflat]
  | err e => rfl
  | panic => rfl

/-- The same for an action, in a buffer that carries its attributes. -/
theorem parse_insertEach {nb nb' : NlaBuffer} {tab : UInt16} (hl : Consistent l)
    (hins : UnknownTo TcActionAttribute.kinds ins) (h : Carries nb tab (encodeNlas l))
    (h' : Carries nb' tab (encodeNlas (insertEach l ins))) :
    parse nb' = overAttributes (insertEach · (ins.map (Prod.map id (otherOf .other)))) <$>
      parse nb := by
  rw [parse, parse, h.value, h'.value, Outcome.ok_bind, Outcome.ok_bind,
    findKind_insertEach hl hins]
  cases findKind (encodeNlas l) with
  | ok kind =>
    have hattr := transparent_parseEach (@TcActionAttribute.local_parseWithParam _ kind)
      (fun _ _ _ => TcActionAttribute.parseWithParam_other) l ins hl hins
    dsimp only [id] at hattr
    simp only [Outcome.ok_bind, hattr, h.kind, h'.kind]
    cases parseEach (TcActionAttribute.parseWithParam · kind) (encodeNlas l) <;> rfl
  | err e => rfl
  | panic => rfl

end TcAction

/-! ## All of them -/

/-- **Unknown attributes are transparent**, to messages about routes, links
and disciplines, to the information about a link and to actions. -/
theorem unknown_transparent :
    (∀ hdr : Bytes, hdr.length = RouteHeader.bufferLen →
      Transparent RouteAttribute.kinds .other RouteMessage.overAttributes
        fun l => RouteMessage.decode (hdr ++ encodeNlas l)) ∧
    (∀ hdr : Bytes, hdr.length = LinkHeader.codec.len →
      Transparent LinkAttribute.kinds .other Message.overAttributes
        fun l => LinkMessage.decode (hdr ++ encodeNlas l)) ∧
    (Transparent LinkInfo.kinds .other id fun l => VecLinkInfo.parse (encodeNlas l)) ∧
    (∀ hdr : Bytes, hdr.length = TcHeader.codec.len →
      Transparent TcAttribute.kinds .other Message.overAttributes
        fun l => TcMessage.decode (hdr ++ encodeNlas l)) ∧
    ∀ (l : List (UInt16 × Bytes)) (ins : List (ℕ × UInt16 × Bytes)) (nb nb' : NlaBuffer)
      (tab : UInt16), Consistent l → UnknownTo TcActionAttribute.kinds ins →
      Carries nb tab (encodeNlas l) → Carries nb' tab (encodeNlas (insertEach l ins)) →
      TcAction.parse nb' = TcAction.overAttributes
        (insertEach · (ins.map (Prod.map id (otherOf .other)))) <$> TcAction.parse nb :=
  ⟨fun _ => RouteMessage.transparent, fun _ => LinkMessage.transparent, VecLinkInfo.transparent,
    fun _ => TcMessage.transparent, fun _ _ _ _ _ => TcAction.parse_insertEach⟩

end

/-! ## On a little-endian host -/

section Vlan

attribute [local instance] Reference.little

/-- The kind of a link, and its data: VLAN 7. -/
def vlan7 : List (UInt16 × Bytes) :=
  [(IFLA_INFO_KIND, [118, 108, 97, 110, 0]), (IFLA_INFO_DATA, [6, 0, 1, 0, 7, 0, 0, 0])]

/-- An attribute of a kind above all known ones between the two, and one
in front of them. -/
def unknowns : List (ℕ × UInt16 × Bytes) := [(1, 0x8063, [1, 2, 3]), (0, 0x62, [])]

/-- The data is still that of a VLAN. -/
theorem vlan7_transparent :
    Consistent vlan7 ∧ UnknownTo LinkInfo.kinds unknowns ∧
    VecLinkInfo.parse (encodeNlas (insertEach vlan7 unknowns)) =
      .ok [.other ⟨0x62, []⟩, .infoKind .vlan, .other ⟨0x8063, [1, 2, 3]⟩,
        .data (.vlan [.id 7])] := by
  have hl : Consistent vlan7 := by
    unfold Consistent
    decide
  have hins : UnknownTo LinkInfo.kinds unknowns := by
    unfold UnknownTo
    decide
  have hparse : VecLinkInfo.parse (encodeNlas vlan7) =
      .ok [.infoKind .vlan, .data (.vlan [.id 7])] := rfl
  have h := unknown_transparent.2.2.1 vlan7 unknowns hl hins
  dsimp only at h
  rw [hparse] at h
  exact ⟨hl, hins, h⟩

end Vlan

end NetlinkRoute
