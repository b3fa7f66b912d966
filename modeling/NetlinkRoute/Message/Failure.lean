import NetlinkRoute.Common.Failure
import NetlinkRoute.Message.Safety
import NetlinkRoute.Message.Sequence
/-!
# Messages of all families — which failure is reported

When a message is not parsed, it is for the first of its attributes that is
not, and what comes back is what that one gives: under every message type
the parser stops there, with the same error or panic as on the message that
ends behind it (`RouteNetlinkMessage.deserialize_eq_iff_firstFailure`).
A route is read with the encapsulation type that is in it somewhere, so
the attribute that carries the type has to be kept in front.
-/

namespace NetlinkRoute

open PacketUtils

section

variable [PacketUtils] {hdr : Bytes} {l : List (UInt16 × Bytes)}

/-! ## Routes -/

namespace RouteMessage

/-- The attribute that the encapsulation type is read from. -/
def encapTypeAttribute (l : List (UInt16 × Bytes)) : List (UInt16 × Bytes) :=
  (l.find? fun a => (encapTypeIn a).isSome).toList

/-- The attribute that decides the encapsulation is one of the list and
names a type. -/
theorem of_mem_encapTypeAttribute {a : UInt16 × Bytes} (h : a ∈ encapTypeAttribute l) :
    a ∈ l ∧ ∃ d, encapTypeIn a = some d := by
  rw [encapTypeAttribute, Option.mem_toList] at h
  have hsome := List.find?_some h
  exact ⟨List.mem_of_find?_eq_some h, Option.isSome_iff_exists.1 hsome⟩

/-- In front of attributes of the message, it gives them their context. -/
theorem contextOf_encapTypeAttribute {header : RouteHeader} {l' : List (UInt16 × Bytes)}
    (h : ∀ a ∈ l', a ∈ l) :
    contextOf header (encapTypeAttribute l ++ l') = contextOf header l := by
  rw [contextOf, contextOf, encapTypeAttribute]
  congr 2
  cases hfind : l.find? fun a => (encapTypeIn a).isSome with
  | none =>
    have hnone : ∀ a ∈ l, encapTypeIn a = none := by simpa using hfind
    rw [List.findSome?_eq_none_iff.2 hnone]
    exact List.findSome?_eq_none_iff.2 fun a ha => hnone a (h a ha)
  | some c =>
    obtain ⟨hc, front, back, rfl, hfront⟩ := List.find?_eq_some_iff_append.1 hfind
    obtain ⟨d, hd⟩ := Option.isSome_iff_exists.1 hc
    have hnone : front.findSome? encapTypeIn = none :=
      List.findSome?_eq_none_iff.2 fun a ha => by simpa using hfront a ha
    simp [List.findSome?_append, hnone, hd]

/-- And it is itself decoded, whatever the context. -/
theorem exists_forEach_encapTypeAttribute (ctx : RouteContext) (hl : Consistent l) :
    ∃ as, forEach (fun a => RouteAttribute.parseWithParam ctx (nlaOf a))
      (encapTypeAttribute l) = .ok as := by
  refine exists_forEach_eq_ok fun a ha => ?_
  obtain ⟨hmem, d, hd⟩ := of_mem_encapTypeAttribute ha
  have hc : Carries (nlaOf a) a.1 a.2 := carries_nlaOf (hl a hmem)
  have ha : a.1 &&& NLA_TYPE_MASK = RTA_ENCAP_TYPE ∧ a.2.length = 2 := by
    by_contra hn
    rw [encapTypeIn, if_neg hn] at hd
    cases hd
  rw [RouteAttribute.parseWithParam_encapType hc.valid (hc.word_eq ▸ ha.1), hc.value_eq,
    parseU16_spec.ok _ ha.2]
  exact ⟨_, rfl⟩

/-- The message with this header and what its attributes are parsed as. -/
def assemble (header : RouteHeader) (o : Outcome (List RouteAttribute)) : Outcome RouteMessage := do
  let attributes ← o.context "failed to parse route message NLAs"
  .ok ⟨header, attributes⟩

omit [PacketUtils] in
/-- A route is assembled exactly where its attributes are read. -/
theorem exists_assemble_eq_ok_iff (header : RouteHeader) (o : Outcome (List RouteAttribute)) :
    (∃ m, assemble header o = .ok m) ↔ ∃ as, o = .ok as := by
  cases o <;> simp [assemble]

/-- Behind the attribute with the encapsulation type, those of the message
are parsed as in it. -/
theorem decode_encapTypeAttribute (hlen : hdr.length = RouteHeader.bufferLen)
    (hl : Consistent l) : ∃ header as,
      decode (hdr ++ encodeNlas l) = assemble header (forEach (fun a =>
        RouteAttribute.parseWithParam (contextOf header l) (nlaOf a)) l) ∧
      ∀ l', (∀ a ∈ l', a ∈ l) → decode (hdr ++ encodeNlas (encapTypeAttribute l ++ l')) =
        assemble header ((fun bs => as ++ bs) <$> forEach (fun a =>
          RouteAttribute.parseWithParam (contextOf header l) (nlaOf a)) l') := by
  obtain ⟨header, hh, -⟩ := RouteHeader.parse_of_le hlen.ge
  obtain ⟨as, has⟩ := exists_forEach_encapTypeAttribute (contextOf header l) hl
  refine ⟨header, as, ?_, fun l' hl' => ?_⟩
  · rw [decode_encodeNlas hlen hl, hh]
    rfl
  · have hboth : Consistent (encapTypeAttribute l ++ l') := by
      refine List.forall_mem_append.2 ⟨fun a ha => ?_, fun a ha => hl a (hl' a ha)⟩
      exact hl a (of_mem_encapTypeAttribute ha).1
    rw [decode_encodeNlas hlen hboth, hh, Outcome.ok_bind, contextOf_encapTypeAttribute hl',
      forEach_append_of_ok has]
    rfl

/-- **A route is decided by the first attribute that is not taken**, in the
context of the whole. -/
theorem firstDecides (hlen : hdr.length = RouteHeader.bufferLen) (hl : Consistent l) :
    FirstDecides (· ∈ l) fun l' => decode (hdr ++ encodeNlas (encapTypeAttribute l ++ l')) := by
  obtain ⟨header, as, -, hdec⟩ := decode_encapTypeAttribute hlen hl
  have hloop : FirstDecides (· ∈ l)
      (forEach fun a => RouteAttribute.parseWithParam (contextOf header l) (nlaOf a)) :=
    firstDecides_forEach
  refine hloop.of_eq (K := fun o => assemble header ((fun bs => as ++ bs) <$> o)) (fun o => ?_) hdec
  rw [exists_assemble_eq_ok_iff]
  cases o <;> simp

/-- To have the type in front changes no failure. -/
theorem failsAlike_decode (hlen : hdr.length = RouteHeader.bufferLen) (hl : Consistent l) :
    FailsAlike (decode (hdr ++ encodeNlas l))
      (decode (hdr ++ encodeNlas (encapTypeAttribute l ++ l))) := by
  obtain ⟨header, as, hwhole, hdec⟩ := decode_encapTypeAttribute hlen hl
  rw [hwhole, hdec l fun _ ha => ha]
  exact failsAlike_map.of_eq (exists_assemble_eq_ok_iff header)

end RouteMessage

/-! ## Tunnels -/

/-- Nothing in a tunnel is not taken. -/
theorem TunnelMessage.firstDecides (hlen : hdr.length = TunnelHeader.codec.len) :
    FirstDecides (fun a => a.2.length ≤ 65531) fun l => decode (hdr ++ encodeNlas l) := by
  refine firstDecides_of_ok fun l hl => ?_
  obtain ⟨header, -, hdec⟩ := decode_encodeNlas hlen hl
  exact ⟨_, hdec⟩

/-! ## Messages of all families -/

namespace RouteNetlinkMessage

variable {t : UInt16} {r : Outcome RouteNetlinkMessage}

/-! ### One arm -/

section Arms

variable {μ : Type} {buffer err : String} {len : ℕ} {parse : Bytes → Outcome μ}
  {arms : μ → List (UInt16 × RouteNetlinkMessage)} {P : UInt16 × Bytes → Prop}

/-- What an arm makes of what its decoder comes back with. -/
def armOf (t : UInt16) (err : String) (arms : μ → List (UInt16 × RouteNetlinkMessage))
    (o : Outcome μ) : Outcome RouteNetlinkMessage := do
  variantOf t (arms (← o.context err))

omit [PacketUtils] in
/-- A listed type accepts exactly what its decoder accepts. -/
theorem exists_armOf_eq_ok_iff (ht : ∀ msg, t ∈ (arms msg).map Prod.fst) (o : Outcome μ) :
    (∃ m, armOf t err arms o = .ok m) ↔ ∃ msg, o = .ok msg := by
  cases o with
  | ok msg =>
    obtain ⟨m, hm⟩ := exists_variantOf (ht msg)
    exact iff_of_true ⟨m, hm⟩ ⟨msg, rfl⟩
  | err e => simp [armOf]
  | panic => simp [armOf]

/-- The checked parse is the decoder under the context of the family. -/
theorem parseChecked_eq {b : Bytes} :
    parseChecked buffer len parse err b = (checkedBuffer buffer len b >>= parse).context err := by
  rw [parseChecked]
  cases checkedBuffer buffer len b <;> rfl

/-- With the dispatch behind it, it is the arm of the family. -/
theorem parseChecked_bind_eq {b : Bytes} :
    (parseChecked buffer len parse err b >>= fun msg => variantOf t (arms msg)) =
      armOf t err arms (checkedBuffer buffer len b >>= parse) := by
  rw [parseChecked_eq]
  rfl

/-- A payload of the full header takes the same arm. -/
theorem parseOrShort_bind_eq {short : Bool} {request : AddressFamily → μ} {b : Bytes}
    (hle : len ≤ b.length) :
    (parseOrShort buffer len parse err short request b >>= fun msg => variantOf t (arms msg)) =
      armOf t err arms (checkedBuffer buffer len b >>= parse) := by
  rw [armOf, parseOrShort, checkedBuffer_of_le hle]
  rfl

/-- The type is decided by what its arm decodes. -/
theorem firstDecides_of_armOf {D : List (UInt16 × Bytes) → Outcome μ} (hD : FirstDecides P D)
    (ht : ∀ msg, t ∈ (arms msg).map Prod.fst)
    (h : ∀ l, deserialize t (hdr ++ encodeNlas l) = armOf t err arms (D l)) :
    FirstDecides P fun l => deserialize t (hdr ++ encodeNlas l) :=
  hD.of_eq (exists_armOf_eq_ok_iff ht) fun l _ => h l

end Arms

/-! ### All of them -/

/-- The size of the header that a message type has. -/
def headerLenOf (t : UInt16) : Option ℕ :=
  selectAny t [
    ([RTM_NEWLINK, RTM_GETLINK, RTM_DELLINK, RTM_SETLINK], some LinkHeader.codec.len),
    ([RTM_NEWADDR, RTM_GETADDR, RTM_DELADDR], some AddressHeader.codec.len),
    ([RTM_NEWNEIGH, RTM_GETNEIGH, RTM_DELNEIGH], some NeighbourHeader.codec.len),
    ([RTM_NEWNEIGHTBL, RTM_GETNEIGHTBL, RTM_SETNEIGHTBL], some NeighbourTableHeader.codec.len),
    ([RTM_NEWROUTE, RTM_GETROUTE, RTM_DELROUTE], some RouteHeader.bufferLen),
    ([RTM_NEWPREFIX], some PrefixHeader.codec.len),
    ([RTM_NEWRULE, RTM_GETRULE, RTM_DELRULE], some RuleHeader.codec.len),
    ([RTM_NEWQDISC, RTM_DELQDISC, RTM_GETQDISC, RTM_NEWTCLASS, RTM_DELTCLASS, RTM_GETTCLASS,
      RTM_NEWTFILTER, RTM_DELTFILTER, RTM_GETTFILTER, RTM_NEWCHAIN, RTM_DELCHAIN, RTM_GETCHAIN],
      some TcHeader.codec.len),
    ([RTM_NEWACTION, RTM_DELACTION, RTM_GETACTION], some TcActionMessageHeader.codec.len),
    ([RTM_NEWNSID, RTM_GETNSID, RTM_DELNSID], some NsidHeader.codec.len),
    ([RTM_NEWNEXTHOP, RTM_DELNEXTHOP, RTM_GETNEXTHOP], some NexthopHeader.codec.len),
    ([RTM_NEWMDB, RTM_DELMDB, RTM_GETMDB], some MdbHeader.codec.len),
    ([RTM_NEWTUNNEL, RTM_DELTUNNEL, RTM_GETTUNNEL], some TunnelHeader.codec.len)] none

/-- The types whose attributes are read with a type that is in one of
them. -/
def routeTypes : List UInt16 := [RTM_NEWROUTE, RTM_GETROUTE, RTM_DELROUTE]

/-- Outside of routes, the first attribute that is not taken decides. -/
theorem firstDecides_deserialize (hlen : headerLenOf t = some hdr.length)
    (ht : t ∉ routeTypes) : FirstDecides (fun a => a.2.length ≤ 65531) fun l =>
      deserialize t (hdr ++ encodeNlas l) := by
  have hle : ∀ l, hdr.length ≤ (hdr ++ encodeNlas l).length := fun l => by simp
  revert hlen
  refine selectAny_ind (P := fun o => o = some hdr.length → _) (fun arm ha hmem hlen => ?_)
    (by simp)
  simp only [List.mem_cons, List.not_mem_nil, or_false] at ha
  rcases ha with rfl | rfl | rfl | rfl | rfl | rfl | rfl | rfl | rfl | rfl | rfl | rfl | rfl
  case inl =>
    have hlen : hdr.length = LinkHeader.codec.len := (Option.some.inj hlen).symm
    simp only [List.mem_cons, List.not_mem_nil, or_false] at hmem
    rcases hmem with rfl | rfl | rfl | rfl
    all_goals
      exact firstDecides_of_armOf (LinkMessage.each.sequential.firstDecides hlen)
        (fun _ => by simp) fun l =>
          (selectAny_of_find rfl).trans (parseOrShort_bind_eq (hlen ▸ hle l))
  case inr.inl =>
    have hlen : hdr.length = AddressHeader.codec.len := (Option.some.inj hlen).symm
    simp only [List.mem_cons, List.not_mem_nil, or_false] at hmem
    rcases hmem with rfl | rfl | rfl
    all_goals
      exact firstDecides_of_armOf (AddressMessage.each.sequential.firstDecides hlen)
        (fun _ => by simp) fun l =>
          (selectAny_of_find rfl).trans (parseOrShort_bind_eq (hlen ▸ hle l))
  case inr.inr.inl =>
    have hlen : hdr.length = NeighbourHeader.codec.len := (Option.some.inj hlen).symm
    simp only [List.mem_cons, List.not_mem_nil, or_false] at hmem
    rcases hmem with rfl | rfl | rfl
    all_goals
      exact firstDecides_of_armOf (NeighbourMessage.each.sequential.firstDecides hlen)
        (fun _ => by simp) fun l => (selectAny_of_find rfl).trans parseChecked_bind_eq
  case inr.inr.inr.inl =>
    have hlen : hdr.length = NeighbourTableHeader.codec.len := (Option.some.inj hlen).symm
    simp only [List.mem_cons, List.not_mem_nil, or_false] at hmem
    rcases hmem with rfl | rfl | rfl
    all_goals
      exact firstDecides_of_armOf (NeighbourTableMessage.each.sequential.firstDecides hlen)
        (fun _ => by simp) fun l => (selectAny_of_find rfl).trans parseChecked_bind_eq
  case inr.inr.inr.inr.inl => exact absurd hmem ht
  case inr.inr.inr.inr.inr.inl =>
    have hlen : hdr.length = PrefixHeader.codec.len := (Option.some.inj hlen).symm
    cases List.mem_singleton.1 hmem
    refine (PrefixMessage.each.sequential.firstDecides hlen).of_eq (K := fun o =>
      newPrefix <$> o.context "invalid prefix message") (fun o => ?_)
      fun l _ => (selectAny_of_find rfl).trans (congrArg (newPrefix <$> ·) parseChecked_eq)
    cases o <;> simp
  case inr.inr.inr.inr.inr.inr.inl =>
    have hlen : hdr.length = RuleHeader.codec.len := (Option.some.inj hlen).symm
    simp only [List.mem_cons, List.not_mem_nil, or_false] at hmem
    rcases hmem with rfl | rfl | rfl
    all_goals
      exact firstDecides_of_armOf (RuleMessage.each.sequential.firstDecides hlen)
        (fun _ => by simp) fun l => (selectAny_of_find rfl).trans parseChecked_bind_eq
  case inr.inr.inr.inr.inr.inr.inr.inl =>
    have hlen : hdr.length = TcHeader.codec.len := (Option.some.inj hlen).symm
    simp only [List.mem_cons, List.not_mem_nil, or_false] at hmem
    rcases hmem with rfl | rfl | rfl | rfl | rfl | rfl | rfl | rfl | rfl | rfl | rfl | rfl
    all_goals
      exact firstDecides_of_armOf (TcMessage.sequential.firstDecides hlen)
        (fun _ => by simp) fun l => (selectAny_of_find rfl).trans parseChecked_bind_eq
  case inr.inr.inr.inr.inr.inr.inr.inr.inl =>
    have hlen : hdr.length = TcActionMessageHeader.codec.len := (Option.some.inj hlen).symm
    have hdec := TcActionMessage.each.sequential.firstDecides hlen
    simp only [← TcActionMessage.decode_eq] at hdec
    simp only [List.mem_cons, List.not_mem_nil, or_false] at hmem
    rcases hmem with rfl | rfl | rfl
    all_goals
      exact firstDecides_of_armOf hdec (fun _ => by simp)
        fun l => (selectAny_of_find rfl).trans parseChecked_bind_eq
  case inr.inr.inr.inr.inr.inr.inr.inr.inr.inl =>
    have hlen : hdr.length = NsidHeader.codec.len := (Option.some.inj hlen).symm
    simp only [List.mem_cons, List.not_mem_nil, or_false] at hmem
    rcases hmem with rfl | rfl | rfl
    all_goals
      exact firstDecides_of_armOf (NsidMessage.each.sequential.firstDecides hlen)
        (fun _ => by simp) fun l => (selectAny_of_find rfl).trans parseChecked_bind_eq
  case inr.inr.inr.inr.inr.inr.inr.inr.inr.inr.inl =>
    have hlen : hdr.length = NexthopHeader.codec.len := (Option.some.inj hlen).symm
    simp only [List.mem_cons, List.not_mem_nil, or_false] at hmem
    rcases hmem with rfl | rfl | rfl
    all_goals
      exact firstDecides_of_armOf (NexthopMessage.each.sequential.firstDecides hlen)
        (fun _ => by simp) fun l => (selectAny_of_find rfl).trans parseChecked_bind_eq
  case inr.inr.inr.inr.inr.inr.inr.inr.inr.inr.inr.inl =>
    have hlen : hdr.length = MdbHeader.codec.len := (Option.some.inj hlen).symm
    simp only [List.mem_cons, List.not_mem_nil, or_false] at hmem
    rcases hmem with rfl | rfl | rfl
    all_goals
      exact firstDecides_of_armOf (MdbMessage.each.sequential.firstDecides hlen)
        (fun _ => by simp) fun l => (selectAny_of_find rfl).trans parseChecked_bind_eq
  case inr.inr.inr.inr.inr.inr.inr.inr.inr.inr.inr.inr =>
    have hlen : hdr.length = TunnelHeader.codec.len := (Option.some.inj hlen).symm
    simp only [List.mem_cons, List.not_mem_nil, or_false] at hmem
    rcases hmem with rfl | rfl | rfl
    all_goals
      exact firstDecides_of_armOf (TunnelMessage.firstDecides hlen)
        (fun _ => by simp) fun l => (selectAny_of_find rfl).trans parseChecked_bind_eq

/-- What a route is wrapped in. -/
def routeArms (msg : RouteMessage) : List (UInt16 × RouteNetlinkMessage) :=
  [(RTM_NEWROUTE, .newRoute msg), (RTM_GETROUTE, .getRoute msg), (RTM_DELROUTE, .delRoute msg)]

/-- A route of full header is dispatched to its own arm. -/
theorem deserialize_route {b : Bytes} (ht : t ∈ routeTypes)
    (hle : RouteHeader.bufferLen ≤ b.length) :
    deserialize t b = armOf t "invalid route message" routeArms (RouteMessage.decode b) := by
  simp only [routeTypes, List.mem_cons, List.not_mem_nil, or_false] at ht
  rcases ht with rfl | rfl | rfl
  all_goals exact (selectAny_of_find rfl).trans (parseOrShort_bind_eq hle)

/-- What has to stand in front of attributes of these for them to be read
as they are among these. -/
def leading (t : UInt16) (l : List (UInt16 × Bytes)) : List (UInt16 × Bytes) :=
  if t ∈ routeTypes then RouteMessage.encapTypeAttribute l else []

/-- **The first attribute that is not taken decides what comes back**, under
every message type: the error or the panic is that of the message that ends
with it, and the message that ends in front of it is parsed. -/
theorem deserialize_eq_iff_firstFailure (hl : Consistent l)
    (hlen : headerLenOf t = some hdr.length) (hr : ∀ m, r ≠ .ok m) :
    deserialize t (hdr ++ encodeNlas l) = r ↔
      FirstFailure (fun l' => deserialize t (hdr ++ encodeNlas (leading t l ++ l'))) l r := by
  by_cases ht : t ∈ routeTypes
  · have hlen : hdr.length = RouteHeader.bufferLen := by
      simp only [routeTypes, List.mem_cons, List.not_mem_nil, or_false] at ht
      rcases ht with rfl | rfl | rfl
      all_goals exact (Option.some.inj hlen).symm
    have hle : ∀ l', RouteHeader.bufferLen ≤ (hdr ++ encodeNlas l').length := fun l' => by
      simp [hlen]
    have harm : ∀ o, (∃ m, armOf t "invalid route message" routeArms o = .ok m) ↔
        ∃ msg, o = .ok msg :=
      exists_armOf_eq_ok_iff fun _ => by simpa [routeArms, routeTypes] using ht
    have halike := (RouteMessage.failsAlike_decode hlen hl).of_eq harm
    rw [← deserialize_route ht (hle _), ← deserialize_route ht (hle _)] at halike
    have hfirst := (RouteMessage.firstDecides hlen hl).of_eq harm
      (E := fun l' => deserialize t (hdr ++ encodeNlas (RouteMessage.encapTypeAttribute l ++ l')))
      fun l' _ => deserialize_route ht (hle _)
    rw [leading, if_pos ht, halike.eq_iff hr]
    exact hfirst l (fun _ ha => ha) r hr
  · simp only [leading, if_neg ht, List.nil_append]
    exact firstDecides_deserialize hlen ht l hl r hr

end RouteNetlinkMessage

end

/-! ## On a little-endian host -/

section Failures

attribute [local instance] Reference.little

namespace RouteNetlinkMessage

/-- Flags of two bytes behind a label are what an address is not parsed
for, whatever is behind them. -/
theorem labelled_firstFailure : FirstFailure (fun l' => deserialize RTM_NEWADDR
    ([2, 8, 0, 254, 1, 0, 0, 0] ++ encodeNlas (leading RTM_NEWADDR
      [(3, [108, 111, 0]), (8, [128, 0]), (1, [127, 0])] ++ l')))
    [(3, [108, 111, 0]), (8, [128, 0]), (1, [127, 0])]
    (deserialize RTM_NEWADDR ([2, 8, 0, 254, 1, 0, 0, 0] ++
      encodeNlas [(3, [108, 111, 0]), (8, [128, 0]), (1, [127, 0])])) := by
  refine (deserialize_eq_iff_firstFailure (by simp [Consistent]) rfl fun m hm => ?_).1 rfl
  cases hm

end RouteNetlinkMessage

end Failures

end NetlinkRoute
