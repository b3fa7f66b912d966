import NetlinkRoute.Common.Sequence
import NetlinkRoute.Message.Accepts
import NetlinkRoute.Message.Transparent
/-!
# Messages of all families — as sequences of attributes

A message is its header and what its attributes carry: what they are padded
with makes no difference (`RouteNetlinkMessage.deserialize_congr_iff`), and one
that was cut short is an error, or has the attributes that were left
(`RouteNetlinkMessage.cutShort_of_deserialize`). All of this follows from
two facts about each family: its header is read from its own bytes, and its
attributes are each read by kind word and payload.
-/

namespace NetlinkRoute

open PacketUtils

section

variable [PacketUtils]

/-! ## Headers -/

/-- Every header reads the bytes of its own length and no others. -/
theorem AddressHeader.readsOwn : ReadsOwn AddressHeader.codec.parse AddressHeader.codec.len := by
  intro hdr rest hlen
  have hlen : hdr.length = 8 := hlen
  simp (disch := omega) only [AddressHeader.codec, getU8_inside, getU32_inside]

theorem PrefixHeader.readsOwn : ReadsOwn PrefixHeader.codec.parse PrefixHeader.codec.len := by
  intro hdr rest hlen
  have hlen : hdr.length = 12 := hlen
  simp (disch := omega) only [PrefixHeader.codec, getU8_inside, getI32_inside]

/-- The header of a neighbour leaves its padding unread. -/
theorem NeighbourHeader.readsOwn :
    ReadsOwn NeighbourHeader.codec.parse NeighbourHeader.codec.len := by
  intro hdr rest hlen
  have hlen : hdr.length = 12 := hlen
  simp (disch := omega) only [NeighbourHeader.codec, getU8_inside, getU16_inside, getU32_inside]

omit [PacketUtils] in
theorem NeighbourTableHeader.readsOwn :
    ReadsOwn NeighbourTableHeader.codec.parse NeighbourTableHeader.codec.len := by
  intro hdr rest hlen
  have hlen : hdr.length = 4 := hlen
  simp (disch := omega) only [NeighbourTableHeader.codec, getU8_inside]

theorem NexthopHeader.readsOwn : ReadsOwn NexthopHeader.codec.parse NexthopHeader.codec.len := by
  intro hdr rest hlen
  have hlen : hdr.length = 8 := hlen
  simp (disch := omega) only [NexthopHeader.codec, getU8_inside, getU32_inside]

omit [PacketUtils] in
theorem NsidHeader.readsOwn : ReadsOwn NsidHeader.codec.parse NsidHeader.codec.len := by
  intro hdr rest hlen
  have hlen : hdr.length = 4 := hlen
  simp (disch := omega) only [NsidHeader.codec, getU8_inside]

theorem MdbHeader.readsOwn : ReadsOwn MdbHeader.codec.parse MdbHeader.codec.len := by
  intro hdr rest hlen
  have hlen : hdr.length = 8 := hlen
  simp (disch := omega) only [MdbHeader.codec, getU8_inside, getU32_inside]

theorem RuleHeader.readsOwn : ReadsOwn RuleHeader.codec.parse RuleHeader.codec.len := by
  intro hdr rest hlen
  have hlen : hdr.length = 12 := hlen
  simp (disch := omega) only [RuleHeader.codec, getU8_inside, getU32_inside]

/-- So does the header of a link. -/
theorem LinkHeader.readsOwn : ReadsOwn LinkHeader.codec.parse LinkHeader.codec.len := by
  intro hdr rest hlen
  have hlen : hdr.length = 16 := hlen
  simp (disch := omega) only [LinkHeader.codec, getU8_inside, getU16_inside, getU32_inside]

theorem TcHeader.readsOwn : ReadsOwn TcHeader.codec.parse TcHeader.codec.len := by
  intro hdr rest hlen
  have hlen : hdr.length = 20 := hlen
  simp (disch := omega) only [TcHeader.codec, getU8_inside, getU32_inside, getI32_inside]

theorem TcActionMessageHeader.readsOwn :
    ReadsOwn TcActionMessageHeader.codec.parse TcActionMessageHeader.codec.len := by
  intro hdr rest hlen
  have hlen : hdr.length = 4 := hlen
  simp (disch := omega) only [TcActionMessageHeader.codec, getU8_inside]

theorem TunnelHeader.readsOwn : ReadsOwn TunnelHeader.codec.parse TunnelHeader.codec.len := by
  intro hdr rest hlen
  have hlen : hdr.length = 8 := hlen
  simp (disch := omega) only [TunnelHeader.codec, getU8_inside, getU32_inside]

/-! ## Attributes -/

/-- Every parser of attributes looks at one attribute only: at its kind word
and payload. -/
theorem AddressAttribute.local_parse : Local parse := by
  intro nb nb' word v h h'
  rw [parse, parse, h.bind, h'.bind, local_defaultNla h h']

theorem PrefixAttribute.local_parse : Local parse := by
  intro nb nb' word v h h'
  rw [parse_of_carries h, parse_of_carries h']

/-- The parser of a neighbour does so under every family. -/
theorem NeighbourAttribute.local_parseWithParam {family : AddressFamily} :
    Local (parseWithParam family) := by
  intro nb nb' word v h h'
  rw [parseWithParam, parseWithParam, h.bind, h'.bind, local_defaultNla h h']

theorem NeighbourTableAttribute.local_parse : Local parse := by
  intro nb nb' word v h h'
  rw [parse, parse, h.bind, h'.bind, local_defaultNla h h']

/-- So does the parser of a next hop. -/
theorem NexthopAttribute.local_parseWithParam {family : AddressFamily} :
    Local (parseWithParam family) := by
  intro nb nb' word v h h'
  rw [parseWithParam, parseWithParam, h.bind, h'.bind, local_defaultNla h h']

theorem NsidAttribute.local_parse : Local parse := by
  intro nb nb' word v h h'
  rw [parse, parse, h.bind, h'.bind, local_defaultNla h h']

theorem MdbAttribute.local_parseWithParam : Local parseWithParam := by
  intro nb nb' word v h h'
  rw [parseWithParam, parseWithParam, h.bind, h'.bind]

theorem RuleAttribute.local_parse : Local parse := by
  intro nb nb' word v h h'
  rw [parse, parse, h.bind, h'.bind, local_defaultNla h h']

theorem TcActionMessageAttribute.local_parse : Local parse := by
  intro nb nb' word v h h'
  have hflags : TcActionMessageFlagsWithSelector.parse nb =
      TcActionMessageFlagsWithSelector.parse nb' := by
    rw [TcActionMessageFlagsWithSelector.parse, TcActionMessageFlagsWithSelector.parse,
      local_value h h']
  rw [parse, parse, h.bind, h'.bind, local_defaultNla h h', hflags]

/-! ## Routes -/

namespace RouteMessage

variable {b b' p : Bytes} {k : ℕ} {m : RouteMessage}

/-- The encapsulation type is looked for in what the attributes carry. -/
theorem firstEncapType_eq : firstEncapType p = (carried p).findSome? encapTypeIn := by
  rw [firstEncapType, carried]
  have hvalid : ∀ nb, .ok nb ∈ nlas p → NlaValid nb.buffer := fun _ => valid_of_mem_nlas
  generalize nlas p = os at hvalid
  induction os with
  | nil => rfl
  | cons o os ih =>
    have ih := ih fun nb hnb => hvalid nb (List.mem_cons_of_mem o hnb)
    cases o with
    | ok nb =>
      rw [List.findSome?_cons, ih, List.filterMap_cons]
      rfl
    | err e => exact ih
    | panic => exact ih

/-- A route shorter than its header is refused. -/
theorem decode_of_lt (hlt : b.length < RouteHeader.bufferLen) : ∃ e, decode b = .err e := by
  obtain ⟨e, he⟩ := checkedBuffer_of_lt (s := "RouteMessageBuffer") hlt
  exact ⟨e, by rw [decode, he]; rfl⟩

/-- A buffer that holds a header is decoded in the context that it and the
attributes give. -/
theorem decode_of_le (hle : RouteHeader.bufferLen ≤ b.length) : ∃ header,
    RouteHeader.parse b = .ok header ∧ decode b = (do
      let attributes ← (parseEach (RouteAttribute.parseWithParam
          (contextOf header (carried (b.drop RouteHeader.bufferLen))))
        (b.drop RouteHeader.bufferLen)).context "failed to parse route message NLAs"
      .ok ⟨header, attributes⟩) := by
  obtain ⟨header, hh, -⟩ := RouteHeader.parse_of_le hle
  refine ⟨header, hh, ?_⟩
  rw [decode, checkedBuffer_of_le hle, Outcome.ok_bind, parse, hh, Outcome.context_ok,
    Outcome.ok_bind, parseAttributes, sliceFrom_ok hle, Outcome.ok_bind, findEncapType_nlas,
    Outcome.ok_bind, firstEncapType_eq]
  rfl

/-- The header of a route reads its own twelve bytes. -/
theorem readsOwn_header : ReadsOwn RouteHeader.parse RouteHeader.bufferLen :=
  fun _ rest hlen => RouteHeader.parse_append hlen rest

/-- **What pads the attributes makes no difference.** -/
theorem decode_congr (h : SameAttributes RouteHeader.bufferLen b b') : decode b = decode b' := by
  obtain ⟨header, hh, heq⟩ := decode_of_le h.le
  obtain ⟨header', hh', heq'⟩ := decode_of_le h.le'
  rw [h.parse_eq readsOwn_header, hh'] at hh
  obtain rfl := Outcome.ok.inj hh
  rw [heq, heq', h.carried,
    parseEach_congr_carried RouteAttribute.local_parseWithParam h.intact h.intact' h.carried]

/-- **Of a message that is cut short the decoder makes an error, or the
attributes that are left**, when the encapsulation type is left as it was. -/
theorem decode_take (h : decode b = .ok m)
    (hencap : firstEncapType ((b.take k).drop RouteHeader.bufferLen) =
      firstEncapType (b.drop RouteHeader.bufferLen)) :
    Shortens decode (fun n => ⟨m.header, m.attributes.take n⟩) (b.take k) := by
  obtain ⟨hle, hh, -⟩ := decode_eq_ok h
  rcases Nat.lt_or_ge k RouteHeader.bufferLen with hlt | hge
  · refine .inl (decode_of_lt ?_)
    rw [List.length_take]
    omega
  · have hle' : RouteHeader.bufferLen ≤ (b.take k).length := by
      rw [List.length_take]
      omega
    obtain ⟨header, hheader, heq⟩ := decode_of_le hle
    obtain ⟨header', hheader', heq'⟩ := decode_of_le hle'
    rw [readsOwn_header.parse_cut hle', hheader] at hheader'
    obtain rfl := Outcome.ok.inj hheader'
    obtain rfl := Outcome.ok.inj (hheader.symm.trans hh)
    -- the context is that of the whole message
    have hctx : contextOf m.header (carried ((b.take k).drop RouteHeader.bufferLen)) =
        contextOf m.header (carried (b.drop RouteHeader.bufferLen)) := by
      rw [contextOf, contextOf, ← firstEncapType_eq, ← firstEncapType_eq, hencap]
    rw [h] at heq
    obtain ⟨as, has, hm⟩ := (Outcome.bind_eq_ok _ _).1 heq.symm
    have hattrs : as = m.attributes := congrArg RouteMessage.attributes (Outcome.ok.inj hm)
    rw [Outcome.context_eq_ok] at has
    rw [hctx, List.drop_take] at heq'
    rcases parseEach_take (k := k - RouteHeader.bufferLen) RouteAttribute.local_parseWithParam has
      with ⟨e, he⟩ | ⟨n, hn⟩
    · exact .inl ⟨_, by rw [heq', he]; rfl⟩
    · exact .inr ⟨n, by rw [heq', hn, hattrs]; rfl⟩

/-- The order of the attributes is that of what the decoder makes of them,
when they give the same encapsulation type in it. -/
theorem decode_comp_of_findSome? {hdr : Bytes} {n : ℕ} {fields : Fin n → UInt16 × Bytes}
    (hlen : hdr.length = RouteHeader.bufferLen) (hl : ∀ i, (fields i).2.length ≤ 65531)
    (σ : Equiv.Perm (Fin n)) (hencap : (List.ofFn (fields ∘ σ)).findSome? encapTypeIn =
      (List.ofFn fields).findSome? encapTypeIn)
    (h : decode (hdr ++ encodeNlas (List.ofFn fields)) = .ok m) :
    ∃ as : Fin n → RouteAttribute, m.attributes = List.ofFn as ∧
      decode (hdr ++ encodeNlas (List.ofFn (fields ∘ σ))) =
        .ok ⟨m.header, List.ofFn (as ∘ σ)⟩ := by
  obtain ⟨hh, as, hattr, has⟩ := (decode_ofFn_eq_ok_iff hlen hl).1 h
  have hctx : contextOf m.header (List.ofFn (fields ∘ σ)) =
      contextOf m.header (List.ofFn fields) := by
    rw [contextOf, contextOf, hencap]
  exact ⟨as, hattr, decode_comp hlen hl σ hctx hh has⟩

end RouteMessage

/-! ## Tunnels -/

namespace TunnelMessage

variable {b b' : Bytes} {k : ℕ} {m : TunnelMessage}

/-- A tunnel message is decoded from its header and its attributes and
nothing else. -/
theorem decode_congr (h : SameAttributes 8 b b') : decode b = decode b' := by
  obtain ⟨header, hh, -, heq⟩ := decode_of_le h.le
  obtain ⟨header', hh', -, heq'⟩ := decode_of_le h.le'
  rw [h.parse_eq TunnelHeader.readsOwn, hh'] at hh
  obtain rfl := Outcome.ok.inj hh
  rw [heq, heq', h.carried]

/-- What is left of the identifiers is decoded, whatever is cut. -/
theorem decode_take (h : decode b = .ok m) :
    Shortens decode (fun n => ⟨m.header, m.vnis.take n⟩) (b.take k) := by
  rcases Nat.lt_or_ge (b.take k).length 8 with hlt | hle'
  · obtain ⟨e, he⟩ := checkedBuffer_of_lt (s := "TunnelMessageBuffer")
      (n := TunnelHeader.codec.len) hlt
    exact .inl ⟨e, by rw [decode, he]; rfl⟩
  · have hlen := List.length_take_le k b
    have hlen' := List.length_take_le' k b
    obtain ⟨header, hh, -, heq⟩ := decode_of_le (b := b) (by omega)
    obtain ⟨header', hh', -, heq'⟩ := decode_of_le hle'
    have hsame : TunnelHeader.codec.parse (b.take k) = TunnelHeader.codec.parse b :=
      TunnelHeader.readsOwn.parse_cut hle'
    rw [hsame, hh] at hh'
    obtain rfl := Outcome.ok.inj hh'
    obtain rfl := Outcome.ok.inj (heq.symm.trans h)
    -- the identifiers of the first entries are the first identifiers
    obtain ⟨n, hn⟩ := carried_take (p := b.drop 8) (k := k - 8)
    have hprefix : starts ((carried (b.drop 8)).take n) <+: starts (carried (b.drop 8)) := by
      conv_rhs => rw [← List.take_append_drop n (carried (b.drop 8)), starts_eq_flatMap,
        List.flatMap_append]
      rw [starts_eq_flatMap]
      exact List.prefix_append _ _
    refine .inr ⟨(starts ((carried (b.drop 8)).take n)).length, ?_⟩
    dsimp only
    rw [heq', List.drop_take, hn, ← List.prefix_iff_eq_take.1 hprefix]

section Encoded

variable {hdr : Bytes} {l : List (UInt16 × Bytes)}

/-- Behind a header, the identifiers are those of the entries. -/
theorem decode_encodeNlas (hlen : hdr.length = 8) (hl : Consistent l) : ∃ header,
    TunnelHeader.codec.parse hdr = .ok header ∧
      decode (hdr ++ encodeNlas l) = .ok ⟨header, starts l⟩ := by
  obtain ⟨header, hh, -, hdec⟩ := decode_of_le (b := hdr ++ encodeNlas l) (by
    rw [List.length_append, hlen]
    exact Nat.le_add_right _ _)
  rw [TunnelHeader.readsOwn hdr _ hlen] at hh
  rw [List.drop_left' hlen, carried_encodeNlas hl] at hdec
  exact ⟨header, hh, hdec⟩

/-- Behind a header, an encoded list gives the starts of its entries. -/
theorem decode_encodeNlas_eq_ok_iff (hlen : hdr.length = 8) (hl : Consistent l) :
    decode (hdr ++ encodeNlas l) = .ok m ↔
      TunnelHeader.codec.parse hdr = .ok m.header ∧ m.vnis = starts l := by
  obtain ⟨header, hh, hdec⟩ := decode_encodeNlas hlen hl
  rw [hh, hdec, Outcome.ok.injEq, Outcome.ok.injEq]
  constructor
  · rintro rfl
    exact ⟨rfl, rfl⟩
  · rintro ⟨rfl, hvnis⟩
    rw [← hvnis]

/-- The identifiers of entries are those of each, one after another. -/
theorem starts_ofFn {n : ℕ} {fields : Fin n → UInt16 × Bytes} :
    starts (List.ofFn fields) = (List.ofFn fun i => starts [fields i]).flatten := by
  rw [starts_eq_flatMap, List.flatMap_def, List.map_ofFn]
  congr 2
  funext i
  rw [Function.comp_apply, starts_eq_flatMap, List.flatMap_singleton]

/-- The identifiers come in the order of their entries. -/
theorem decode_comp {n : ℕ} {fields : Fin n → UInt16 × Bytes} (hlen : hdr.length = 8)
    (hl : ∀ i, (fields i).2.length ≤ 65531) (σ : Equiv.Perm (Fin n))
    (h : decode (hdr ++ encodeNlas (List.ofFn fields)) = .ok m) :
    m.vnis = (List.ofFn fun i => starts [fields i]).flatten ∧
      decode (hdr ++ encodeNlas (List.ofFn (fields ∘ σ))) =
        .ok ⟨m.header, (List.ofFn fun i => starts [fields (σ i)]).flatten⟩ := by
  have hl' : ∀ i, ((fields ∘ σ) i).2.length ≤ 65531 := fun i => hl (σ i)
  obtain ⟨hh, hvnis⟩ := (decode_encodeNlas_eq_ok_iff hlen (consistent_ofFn.2 hl)).1 h
  refine ⟨hvnis.trans starts_ofFn, ?_⟩
  exact (decode_encodeNlas_eq_ok_iff hlen (consistent_ofFn.2 hl')).2 ⟨hh, starts_ofFn.symm⟩

end Encoded

end TunnelMessage

/-! ## Messages of all families -/

/-- Each family but routes, traffic control and tunnels parses its
attributes one by one, under its header. -/
theorem AddressMessage.each : AddressMessage.format.Each fun _ => AddressAttribute.parse :=
  ⟨AddressHeader.readsOwn, rfl, fun _ => AddressAttribute.local_parse⟩

theorem PrefixMessage.each : PrefixMessage.format.Each fun _ => PrefixAttribute.parse :=
  ⟨PrefixHeader.readsOwn, rfl, fun _ => PrefixAttribute.local_parse⟩

theorem NeighbourMessage.each :
    NeighbourMessage.format.Each fun header => NeighbourAttribute.parseWithParam header.family :=
  ⟨NeighbourHeader.readsOwn, rfl, fun _ => NeighbourAttribute.local_parseWithParam⟩

theorem NeighbourTableMessage.each :
    NeighbourTableMessage.format.Each fun _ => NeighbourTableAttribute.parse :=
  ⟨NeighbourTableHeader.readsOwn, rfl, fun _ => NeighbourTableAttribute.local_parse⟩

theorem NexthopMessage.each :
    NexthopMessage.format.Each fun header => NexthopAttribute.parseWithParam header.addressFamily :=
  ⟨NexthopHeader.readsOwn, rfl, fun _ => NexthopAttribute.local_parseWithParam⟩

theorem NsidMessage.each : NsidMessage.format.Each fun _ => NsidAttribute.parse :=
  ⟨NsidHeader.readsOwn, rfl, fun _ => NsidAttribute.local_parse⟩

theorem MdbMessage.each : MdbMessage.format.Each fun _ => MdbAttribute.parseWithParam :=
  ⟨MdbHeader.readsOwn, rfl, fun _ => MdbAttribute.local_parseWithParam⟩

theorem RuleMessage.each : RuleMessage.format.Each fun _ => RuleAttribute.parse :=
  ⟨RuleHeader.readsOwn, rfl, fun _ => RuleAttribute.local_parse⟩

theorem LinkMessage.each :
    LinkMessage.format.Each fun header => LinkAttribute.parseWithParam header.interfaceFamily :=
  ⟨LinkHeader.readsOwn, rfl, fun _ => LinkAttribute.local_parseWithParam⟩

theorem TcActionMessage.each :
    TcActionMessage.format.Each fun _ => TcActionMessageAttribute.parse :=
  ⟨TcActionMessageHeader.readsOwn, rfl, fun _ => TcActionMessageAttribute.local_parse⟩

/-- Traffic control threads the kind through its attributes. -/
theorem TcMessage.sequential :
    TcMessage.format.Sequential (fun _ => "") fun _ => TcAttribute.step :=
  ⟨TcHeader.readsOwn, fun _ _ => rfl, fun _ _ => TcAttribute.local_step⟩

namespace RouteNetlinkMessage

variable {m : RouteNetlinkMessage} {b b' : Bytes} {t : UInt16} {k : ℕ}

/-- The sizes of the headers. -/
def headerLens : Families ℕ where
  link _ := 16
  address _ := 8
  neighbour _ := 12
  neighbourTable _ := 4
  route _ := 12
  prefixes _ := 12
  tc _ := 20
  tcAction _ := 4
  mdb _ := 8
  tunnel _ := 8
  nexthop _ := 8
  nsid _ := 4
  rule _ := 12

/-- The size of the header of a message. -/
def headerLen (m : RouteNetlinkMessage) : ℕ := m.inFamily headerLens

/-- Family by family, what was decoded of one string is decoded of another
with the same attributes. -/
theorem decodedFrom_of_same : ((decodedFrom b).map₂ (fun P n => P ∧ SameAttributes n b b')
    headerLens).Implies (decodedFrom b') where
  link msg h := by
    have hsame := LinkMessage.each.sequential.decode_congr h.2
    exact (LinkMessage.decode_eq.trans (hsame.symm.trans (LinkMessage.decode_eq.symm.trans h.1)))
  address msg h := (AddressMessage.each.sequential.decode_congr h.2).symm.trans h.1
  neighbour msg h := (NeighbourMessage.each.sequential.decode_congr h.2).symm.trans h.1
  neighbourTable msg h := (NeighbourTableMessage.each.sequential.decode_congr h.2).symm.trans h.1
  route msg h := (RouteMessage.decode_congr h.2).symm.trans h.1
  prefixes msg h := (PrefixMessage.each.sequential.decode_congr h.2).symm.trans h.1
  tc msg h := (TcMessage.sequential.decode_congr h.2).symm.trans h.1
  tcAction msg h := by
    have hsame := TcActionMessage.each.sequential.decode_congr h.2
    exact TcActionMessage.decode_eq.trans
      (hsame.symm.trans (TcActionMessage.decode_eq.symm.trans h.1))
  mdb msg h := (MdbMessage.each.sequential.decode_congr h.2).symm.trans h.1
  tunnel msg h := (TunnelMessage.decode_congr h.2).symm.trans h.1
  nexthop msg h := (NexthopMessage.each.sequential.decode_congr h.2).symm.trans h.1
  nsid msg h := (NsidMessage.each.sequential.decode_congr h.2).symm.trans h.1
  rule msg h := (RuleMessage.each.sequential.decode_congr h.2).symm.trans h.1

omit [PacketUtils] in
/-- A request ends before a header would. -/
theorem length_lt_of_requestOf (h : m.RequestOf b) : b.length < m.headerLen := by
  cases m with
  | getLink msg =>
    obtain ⟨family, ⟨h4, -⟩, -⟩ := h
    show b.length < 16
    omega
  | getAddress msg =>
    obtain ⟨family, ⟨h4, -⟩, -⟩ := h
    show b.length < 8
    omega
  | getRoute msg =>
    obtain ⟨family, ⟨h4, -⟩, -⟩ := h
    show b.length < 12
    omega
  | _ msg => exact h.elim

/-- **The bytes between attributes do not matter**: a payload with the same
header and attributes is accepted as the same message. -/
theorem deserialize_of_same (h : deserialize t b = .ok m) (hs : SameAttributes m.headerLen b b') :
    deserialize t b' = .ok m := by
  obtain ⟨hprop, hm | hreq⟩ := holds_parseWithParam m h
  · obtain rfl := messageType_of_parseWithParam h
    have hboth : m.inFamily
        ((decodedFrom b).map₂ (fun P n => P ∧ SameAttributes n b b') headerLens) := by
      rw [inFamily_map₂]
      exact ⟨hm, hs⟩
    exact parseWithParam_of_decodedFrom hprop (inFamily_mono decodedFrom_of_same m hboth)
  · have hlt := length_lt_of_requestOf hreq
    have hle := hs.le
    omega

/-- **A message is its header and what its attributes carry**: under every
message type, strings that agree in these are parsed as the same message,
whatever they are padded with. -/
theorem deserialize_congr_iff (hs : SameAttributes m.headerLen b b') :
    deserialize t b = .ok m ↔ deserialize t b' = .ok m :=
  ⟨fun h => deserialize_of_same h hs, fun h => deserialize_of_same h hs.symm⟩

/-! ### Cut short -/

/-- What each family's decoder makes of the message when it is cut short:
an error, or the attributes that are left. A route has to be left the
attribute that its encapsulation type was read from. -/
def cutShort (b : Bytes) (k : ℕ) : Families Prop where
  link msg := Shortens LinkMessage.decode (fun n => ⟨msg.header, msg.attributes.take n⟩) (b.take k)
  address msg := Shortens AddressMessage.format.decode
    (fun n => ⟨msg.header, msg.attributes.take n⟩) (b.take k)
  neighbour msg := Shortens NeighbourMessage.format.decode
    (fun n => ⟨msg.header, msg.attributes.take n⟩) (b.take k)
  neighbourTable msg := Shortens NeighbourTableMessage.format.decode
    (fun n => ⟨msg.header, msg.attributes.take n⟩) (b.take k)
  route msg := RouteMessage.firstEncapType ((b.take k).drop 12) =
      RouteMessage.firstEncapType (b.drop 12) →
    Shortens RouteMessage.decode (fun n => ⟨msg.header, msg.attributes.take n⟩) (b.take k)
  prefixes msg := Shortens PrefixMessage.format.decode
    (fun n => ⟨msg.header, msg.attributes.take n⟩) (b.take k)
  tc msg := Shortens TcMessage.decode (fun n => ⟨msg.header, msg.attributes.take n⟩) (b.take k)
  tcAction msg := Shortens TcActionMessage.decode (fun n => ⟨msg.header, msg.attributes.take n⟩)
    (b.take k)
  mdb msg := Shortens MdbMessage.format.decode (fun n => ⟨msg.header, msg.attributes.take n⟩)
    (b.take k)
  tunnel msg := Shortens TunnelMessage.decode (fun n => ⟨msg.header, msg.vnis.take n⟩) (b.take k)
  nexthop msg := Shortens NexthopMessage.format.decode
    (fun n => ⟨msg.header, msg.attributes.take n⟩) (b.take k)
  nsid msg := Shortens NsidMessage.format.decode (fun n => ⟨msg.header, msg.attributes.take n⟩)
    (b.take k)
  rule msg := Shortens RuleMessage.format.decode (fun n => ⟨msg.header, msg.attributes.take n⟩)
    (b.take k)

/-- A decoded payload cut anywhere is refused or gives a prefix, in every
family. -/
theorem cutShort_of_decodedFrom : (decodedFrom b).Implies (cutShort b k) where
  link msg h := by
    have hdec : LinkMessage.format.decode b = .ok msg := LinkMessage.decode_eq.symm.trans h
    have hcut := LinkMessage.each.sequential.decode_take (k := k) hdec
    simp only [Shortens, ← LinkMessage.decode_eq] at hcut
    exact hcut
  address _ h := AddressMessage.each.sequential.decode_take h
  neighbour _ h := NeighbourMessage.each.sequential.decode_take h
  neighbourTable _ h := NeighbourTableMessage.each.sequential.decode_take h
  route _ h := RouteMessage.decode_take h
  prefixes _ h := PrefixMessage.each.sequential.decode_take h
  tc _ h := TcMessage.sequential.decode_take h
  tcAction msg h := by
    have hdec : TcActionMessage.format.decode b = .ok msg := TcActionMessage.decode_eq.symm.trans h
    have hcut := TcActionMessage.each.sequential.decode_take (k := k) hdec
    simp only [Shortens, ← TcActionMessage.decode_eq] at hcut
    exact hcut
  mdb _ h := MdbMessage.each.sequential.decode_take h
  tunnel _ h := TunnelMessage.decode_take h
  nexthop _ h := NexthopMessage.each.sequential.decode_take h
  nsid _ h := NsidMessage.each.sequential.decode_take h
  rule _ h := RuleMessage.each.sequential.decode_take h

/-- **A message that is cut short is never taken for another one.** -/
theorem cutShort_of_deserialize (h : deserialize t b = .ok m) (hle : m.headerLen ≤ b.length)
    (k : ℕ) : m.inFamily (cutShort b k) := by
  obtain ⟨-, hm | hreq⟩ := holds_parseWithParam m h
  · exact inFamily_mono cutShort_of_decodedFrom m hm
  · have hlt := length_lt_of_requestOf hreq
    omega

end RouteNetlinkMessage

end

/-! ## On a little-endian host -/

section Padding

attribute [local instance] Reference.little

namespace RouteNetlinkMessage

/-- An address with a label of three bytes, and flags behind it. -/
def labelled : RouteNetlinkMessage :=
  .newAddress ⟨⟨.inet, 8, 0, .host, 1⟩, [.label "lo", .flags 128]⟩

/-- Its bytes, with this byte of padding. -/
def labelledBytes (pad : UInt8) : Bytes :=
  [2, 8, 0, 254, 1, 0, 0, 0] ++ [7, 0, 3, 0, 108, 111, 0, pad] ++ [8, 0, 8, 0, 128, 0, 0, 0]

theorem deserialize_labelled : deserialize RTM_NEWADDR (labelledBytes 0) = .ok labelled := rfl

/-- Whatever the label is padded with, the address is the same. -/
theorem labelled_congr : SameAttributes labelled.headerLen (labelledBytes 0) (labelledBytes 255) ∧
    (deserialize RTM_NEWADDR (labelledBytes 0) = .ok labelled ↔
      deserialize RTM_NEWADDR (labelledBytes 255) = .ok labelled) := by
  have hintact : ∀ (p : Bytes) (nb nb' : NlaBuffer), nlas p = [.ok nb, .ok nb'] → Intact p := by
    intro p nb nb' h o ho
    rw [h] at ho
    rcases List.mem_cons.1 ho with rfl | ho
    · exact ⟨_, rfl⟩
    · exact ⟨_, List.mem_singleton.1 ho⟩
  have hsame : SameAttributes labelled.headerLen (labelledBytes 0) (labelledBytes 255) :=
    ⟨by decide, rfl, rfl,
      hintact _ ⟨(labelledBytes 0).drop 8⟩ ⟨(labelledBytes 0).drop 16⟩ rfl,
      hintact _ ⟨(labelledBytes 255).drop 8⟩ ⟨(labelledBytes 255).drop 16⟩ rfl⟩
  exact ⟨hsame, deserialize_congr_iff hsame⟩

/-- Cut inside the label or behind it, it is not another address. -/
theorem labelled_cutShort :
    labelled.inFamily (cutShort (labelledBytes 0) 14) ∧
      labelled.inFamily (cutShort (labelledBytes 0) 16) :=
  ⟨cutShort_of_deserialize deserialize_labelled (by decide) 14,
    cutShort_of_deserialize deserialize_labelled (by decide) 16⟩

end RouteNetlinkMessage

end Padding

end NetlinkRoute
