import NetlinkRoute.Message.Accepts
import NetlinkRoute.Neighbour.Message
import NetlinkRoute.Route.Written
import NetlinkRoute.Tc.ActionMessage
import NetlinkRoute.Tc.Hops
import NetlinkRoute.Message.Peers
/-!
# Messages of all families — sent on

A program that hands messages on writes what it has, and the other side
reads it under the same message type (`RouteNetlinkMessage.relay`). Of the
well-formed messages whose attributes fit their length fields, the other
side gets the same one exactly of those that have nothing in them which
their own codec alters (`relay_eq_self_iff`). What was received is well
formed, and little of what is altered can be in it: so what was received
once arrives unchanged over any number of hops, but for links with their
own port and the options of filters and disciplines that are not known
(`hops_relay_iff`).
-/

namespace NetlinkRoute

open PacketUtils Emitter

section

variable [PacketUtils]

/-- The message comes back: written into a zeroed buffer, it is decoded as
it was. -/
def MessageFormat.ComesBack {η α : Type} (F : MessageFormat η α) (m : Message η α) : Prop :=
  ∃ out, Fills (F.emit m) (F.bufferLen m) out ∧ F.decode out = .ok m

namespace RouteNetlinkMessage

variable {m : RouteNetlinkMessage} {b out : Bytes} {t : UInt16}

/-! ## One hop -/

/-- What the other side makes of a message. -/
def relay (m : RouteNetlinkMessage) : Outcome RouteNetlinkMessage :=
  passOn serialize bufferLen (deserialize m.messageType) m

/-- The inner message comes back through its family's codec. -/
def comesBack : Families Prop where
  link := LinkMessage.ComesBack
  address := AddressMessage.format.ComesBack
  neighbour := NeighbourMessage.format.ComesBack
  neighbourTable := NeighbourTableMessage.format.ComesBack
  route msg := ∃ out, Fills msg.emit msg.bufferLen out ∧ RouteMessage.decode out = .ok msg
  prefixes := PrefixMessage.format.ComesBack
  tc := TcMessage.ComesBack
  tcAction := TcActionMessage.ComesBack
  mdb := MdbMessage.format.ComesBack
  tunnel msg := ∃ out, Fills msg.emit msg.bufferLen out ∧ TunnelMessage.decode out = .ok msg
  nexthop := NexthopMessage.format.ComesBack
  nsid := NsidMessage.format.ComesBack
  rule := RuleMessage.ComesBack

/-- A message comes back where it can be written and what is written decodes
to it. -/
theorem inFamily_comesBack_iff : m.inFamily comesBack ↔
    ∃ out, Fills m.serialize m.bufferLen out ∧ m.inFamily (decodedFrom out) := by
  cases m <;> exact Iff.rfl

/-- What a message is written to has room for a header, and is never taken
for a request that ends before one. -/
theorem not_requestOf (hout : Fills m.serialize m.bufferLen out) : ¬ m.RequestOf out := by
  intro h
  have hlen : out.length = m.bufferLen := hout.length_eq
  cases m with
  | getLink msg =>
    obtain ⟨family, ⟨h4, -⟩, -⟩ := h
    have hle : 16 ≤ LinkMessage.bufferLen msg := by
      rw [LinkMessage.bufferLen_eq]
      exact Nat.le_add_right _ _
    rw [bufferLen] at hlen
    omega
  | getAddress msg =>
    obtain ⟨family, ⟨h4, -⟩, -⟩ := h
    have hle : 8 ≤ AddressMessage.format.bufferLen msg := Nat.le_add_right _ _
    rw [bufferLen] at hlen
    omega
  | getRoute msg =>
    obtain ⟨family, ⟨h4, -⟩, -⟩ := h
    have hle : 12 ≤ msg.bufferLen := Nat.le_add_right _ _
    rw [bufferLen] at hlen
    omega
  | _ msg => exact h

/-- **A message arrives as it was sent when the inner one comes back**, and
its type is one that the parser knows. -/
theorem relay_eq_iff_comesBack : relay m = .ok m ↔ ¬ m.IsLinkProp ∧ m.inFamily comesBack := by
  rw [relay, passOn_eq_ok_iff, inFamily_comesBack_iff]
  constructor
  · rintro ⟨out, hout, hdec⟩
    obtain ⟨hprop, hm | hm⟩ := holds_parseWithParam m hdec
    · exact ⟨hprop, out, hout, hm⟩
    · exact absurd hm (not_requestOf hout)
  · rintro ⟨hprop, out, hout, hm⟩
    exact ⟨out, hout, parseWithParam_of_decodedFrom hprop hm⟩

/-! ## What arrives -/

/-- Enumerations hold the values that their numbers name, unknown
attributes are of none of the kinds that the decoder names, and what one
value selects another by is what it selects. -/
def wellFormed : Families Prop where
  link := LinkMessage.WellFormed
  address msg := AddressHeader.codec.WellFormed msg.header ∧ ∀ a ∈ msg.attributes, a.Canonical
  neighbour := NeighbourMessage.Canonical
  neighbourTable msg := NeighbourTableHeader.codec.WellFormed msg.header ∧
    ∀ a ∈ msg.attributes, a.WellFormed
  route := RouteMessage.WellFormed
  prefixes msg := PrefixHeader.codec.WellFormed msg.header ∧ ∀ a ∈ msg.attributes, a.Canonical
  tc := TcMessage.Fitting
  tcAction := TcActionMessage.WellFormed
  mdb msg := MdbHeader.codec.WellFormed msg.header ∧ ∀ a ∈ msg.attributes, a.WellFormed
  tunnel msg := AddressFamily.codec.Canonical msg.header.family
  nexthop := NexthopMessage.Canonical
  nsid msg := NsidHeader.codec.WellFormed msg.header ∧ ∀ a ∈ msg.attributes, a.WellFormed
  rule := RuleMessage.WellFormed

/-- Every attribute fits its length field. The identifiers of tunnels stand
in attributes of one size, which does. -/
def sized : Families Prop where
  link := LinkMessage.format.Sized
  address := AddressMessage.format.Sized
  neighbour := NeighbourMessage.format.Sized
  neighbourTable := NeighbourTableMessage.format.Sized
  route := RouteMessage.Sized
  prefixes := PrefixMessage.format.Sized
  tc := TcMessage.format.Sized
  tcAction := TcActionMessage.format.Sized
  mdb := MdbMessage.format.Sized
  tunnel _ := True
  nexthop := NexthopMessage.format.Sized
  nsid := NsidMessage.format.Sized
  rule := RuleMessage.format.Sized

/-- Nothing in the message is altered by its own codec: there is no link's
own port, empty list of programs or cleared VXLAN flag in it, at any depth;
no address of a neighbour that its family does not select; no id of a next
hop object in a route and no encapsulation in a next hop object; no options
of traffic control that stand in an attribute of their own; and no IP
protocol that a byte is too small for. -/
def unaltered : Families Prop where
  link msg := ¬ LinkMessage.Altered msg
  address _ := True
  neighbour := NeighbourMessage.Consistent
  neighbourTable _ := True
  route msg := ∀ a ∈ msg.attributes, a.Everywhere RouteAttribute.NotNhid
  prefixes _ := True
  tc msg := TcMessage.keptOptions msg = 0
  tcAction _ := True
  mdb _ := True
  tunnel _ := True
  nexthop msg := ∀ a ∈ msg.attributes, a.NotEncap
  nsid _ := True
  rule msg := ∀ v, .ipProtocol v ∈ msg.attributes → v.FitsByte

/-- Family by family: of the messages that are well formed and fit, those
come back that nothing in is altered. -/
theorem comesBack_of_wellFormed :
    (wellFormed.map₂ And sized).Implies (comesBack.map₂ Iff unaltered) where
  link _ h := LinkMessage.comesBack_iff_not_altered h.1 h.2
  address _ h := iff_of_true (AddressMessage.format.decode_emitted_of rfl h.1.1 h.2 fun a ha =>
    AddressAttribute.roundTrips (h.1.2 a ha)) trivial
  neighbour _ h := by
    constructor
    · rintro ⟨out, -, hdec⟩
      exact NeighbourMessage.consistent_of_decode hdec
    · exact fun hcon => NeighbourMessage.format.decode_emitted_of rfl h.1.1 h.2 fun a ha =>
        NeighbourAttribute.roundTrips (h.1.2 a ha) (hcon a ha) (h.2 a ha)
  neighbourTable _ h := iff_of_true (NeighbourTableMessage.format.decode_emitted_of rfl h.1.1 h.2
    fun a ha => NeighbourTableAttribute.roundTrips (h.1.2 a ha) (h.2 a ha)) trivial
  route _ h := by
    constructor
    · rintro ⟨out, -, hdec⟩
      exact RouteMessage.notNhid_of_decode hdec
    · exact fun hn => RouteMessage.decode_emitted_of_roundTrips h.1.1 h.2 fun a ha =>
        RouteAttribute.roundTrips (h.1.2 a ha) (hn a ha) (h.2 a ha)
  prefixes _ h := iff_of_true (PrefixMessage.format.decode_emitted_of rfl h.1.1 h.2 fun a ha =>
    PrefixAttribute.roundTrips (h.1.2 a ha)) trivial
  tc _ h := (TcMessage.comesBack_iff_of_fitting h.1 h.2).trans TcMessage.received_eq_iff
  tcAction _ h := iff_of_true (TcActionMessage.comesBack_of_wellFormed h.1 h.2) trivial
  mdb _ h := iff_of_true (MdbMessage.format.decode_emitted_of rfl h.1.1 h.2 fun a ha =>
    MdbAttribute.roundTrips (h.1.2 a ha)) trivial
  tunnel _ h := iff_of_true (TunnelMessage.decode_emitted h.1) trivial
  nexthop _ h := by
    constructor
    · rintro ⟨out, -, hdec⟩ a ha l rfl
      exact NexthopMessage.readable_of_decode hdec _ ha
    · exact fun hn => NexthopMessage.format.decode_emitted_of rfl h.1.1 h.2 fun a ha =>
        NexthopAttribute.roundTrips ((h.1.2 a ha).readable (hn a ha))
  nsid _ h := iff_of_true (NsidMessage.format.decode_emitted_of rfl h.1.1 h.2 fun a ha =>
    NsidAttribute.roundTrips (h.1.2 a ha)) trivial
  rule _ h := by
    constructor
    · rintro ⟨out, -, hdec⟩ v hv
      obtain ⟨nb, hnb, hp⟩ := RuleMessage.format.exists_of_mem_decode rfl hdec hv
      exact (h.1.2 _ hv).canonical_iff.1 (RuleAttribute.holds_parse hnb _ hp) v rfl
    · intro hv
      refine RuleMessage.format.decode_emitted_of rfl h.1.1 h.2 fun a ha => ?_
      exact RuleAttribute.roundTrips ((h.1.2 a ha).canonical_iff.2 fun v heq => hv v (heq ▸ ha))

/-- **Of the messages that are well formed and fit, exactly those arrive as
they were sent that nothing in is altered**, and that do not say what to do
with the properties of a link. -/
theorem relay_eq_self_iff (hw : m.inFamily wellFormed) (hs : m.inFamily sized) :
    relay m = .ok m ↔ ¬ m.IsLinkProp ∧ m.inFamily unaltered := by
  have hfamily := inFamily_mono comesBack_of_wellFormed m (by simp [hw, hs])
  rw [inFamily_map₂] at hfamily
  rw [relay_eq_iff_comesBack, hfamily]

/-- **Different messages are different on the wire**: of those that arrive,
no two of one type are written to the same bytes. -/
theorem eq_of_serialize_eq {m' : RouteNetlinkMessage} (hm : relay m = .ok m)
    (hm' : relay m' = .ok m') (ht : m.messageType = m'.messageType)
    (hout : Fills m.serialize m.bufferLen out) (hout' : Fills m'.serialize m'.bufferLen out) :
    m = m' := by
  have hread : deserialize m.messageType out = .ok m := by
    obtain ⟨out₁, h₁, hdec⟩ := passOn_eq_ok_iff.1 hm
    rwa [Outcome.ok.inj (hout.symm.trans h₁)]
  have hread' : deserialize m'.messageType out = .ok m' := by
    obtain ⟨out₁, h₁, hdec⟩ := passOn_eq_ok_iff.1 hm'
    rwa [Outcome.ok.inj (hout'.symm.trans h₁)]
  rw [ht, hread'] at hread
  exact (Outcome.ok.inj hread).symm

/-! ## What was received -/

/-- What a message that was received must not have in it: a link's own port,
the TLVs of a segment routing header in a local action, at any depth, and
options of traffic control that stand in an attribute of their own. -/
def lasting : Families Prop where
  link msg := ¬ LinkMessage.HasPortSelf msg
  address _ := True
  neighbour _ := True
  neighbourTable _ := True
  route msg := ∀ a ∈ msg.attributes, a.Everywhere RouteAttribute.NoTlvs
  prefixes _ := True
  tc msg := TcMessage.keptOptions msg = 0
  tcAction _ := True
  mdb _ := True
  tunnel _ := True
  nexthop _ := True
  nsid _ := True
  rule _ := True

/-- Family by family: what was decoded, and fits. -/
theorem comesBack_of_decodedFrom :
    ((decodedFrom b).map₂ And sized).Implies (comesBack.map₂ Iff lasting) where
  link _ h :=
    (LinkMessage.comesBack_iff_not_altered (LinkMessage.wellFormed_of_decode h.1) h.2).trans
      (not_congr (LinkMessage.altered_iff_of_decode h.1))
  address _ h := iff_of_true (AddressMessage.decode_stable h.1 h.2) trivial
  neighbour _ h := iff_of_true (NeighbourMessage.decode_stable h.1 h.2) trivial
  neighbourTable _ h := iff_of_true (NeighbourTableMessage.decode_stable h.1 h.2) trivial
  route _ h := (RouteMessage.comesBack_iff_written h.1 h.2).trans RouteMessage.written_eq_iff
  prefixes _ h := iff_of_true (PrefixMessage.decode_stable h.1 h.2) trivial
  tc _ h := (TcMessage.comesBack_iff_of_fitting (TcMessage.decode_fits h.1) h.2).trans
    TcMessage.received_eq_iff
  tcAction _ h := iff_of_true
    (TcActionMessage.comesBack_of_wellFormed (TcActionMessage.wellFormed_of_decode h.1) h.2) trivial
  mdb _ h := iff_of_true (MdbMessage.decode_stable h.1 h.2) trivial
  tunnel _ h := iff_of_true (TunnelMessage.decode_stable h.1) trivial
  nexthop _ h := iff_of_true (NexthopMessage.decode_stable h.1 h.2) trivial
  nsid _ h := iff_of_true (NsidMessage.decode_stable h.1 h.2) trivial
  rule _ h := iff_of_true (RuleMessage.decode_stable h.1 h.2) trivial

/-- A request has no attributes, and arrives as a message that has none. -/
theorem comesBack_of_requestOf (h : m.RequestOf b) : m.inFamily comesBack ∧ m.inFamily lasting := by
  have hfamily : ∀ n, AddressFamily.codec.Canonical (AddressFamily.codec.ofNum n) :=
    EnumCodec.canonical_ofNum _
  cases m with
  | getLink msg =>
    obtain ⟨family, -, rfl⟩ := h
    have hheader : LinkHeader.codec.WellFormed
        ⟨AddressFamily.codec.ofNum family, 0, .netrom, 0, 0⟩ := hfamily family
    refine ⟨(LinkMessage.comesBack_iff_roundTrips hheader ?_).2 ?_, ?_⟩
    · exact fun a ha => absurd ha List.not_mem_nil
    · exact fun a ha => absurd ha List.not_mem_nil
    · intro hp
      cases hp with
      | here hv => cases hv
      | peer hl => cases hl
  | getAddress msg =>
    obtain ⟨family, -, rfl⟩ := h
    refine ⟨AddressMessage.format.decode_emitted_of rfl ⟨hfamily family, rfl⟩ ?_ ?_, trivial⟩
    · exact fun a ha => absurd ha List.not_mem_nil
    · exact fun a ha => absurd ha List.not_mem_nil
  | getRoute msg =>
    obtain ⟨family, -, rfl⟩ := h
    refine ⟨RouteMessage.decode_emitted_of_roundTrips ⟨hfamily family, rfl, rfl, rfl⟩ ?_ ?_, ?_⟩
    all_goals exact fun a ha => absurd ha List.not_mem_nil
  | _ msg => exact h.elim

/-- **What was received arrives unchanged over any number of hops exactly
when nothing in it is of these kinds.** -/
theorem hops_relay_iff (h : deserialize t b = .ok m) (hs : m.inFamily sized) :
    (∀ n, hops relay n m = .ok m) ↔ m.inFamily lasting := by
  obtain ⟨hprop, hm⟩ := holds_parseWithParam m h
  have hone : (∀ n, hops relay n m = .ok m) ↔ relay m = .ok m := by
    refine ⟨fun hall => ?_, fun h => hops_of_eq h⟩
    obtain ⟨m', hm', heq⟩ := (Outcome.bind_eq_ok _ _).1 (hall 1)
    cases heq
    exact hm'
  rw [hone, relay_eq_iff_comesBack, and_iff_right hprop]
  rcases hm with hdec | hreq
  · have hboth : m.inFamily ((decodedFrom b).map₂ And sized) := by
      rw [inFamily_map₂]
      exact ⟨hdec, hs⟩
    have hfamily := inFamily_mono comesBack_of_decodedFrom m hboth
    rwa [inFamily_map₂] at hfamily
  · obtain ⟨hcomes, hlasts⟩ := comesBack_of_requestOf hreq
    exact iff_of_true hcomes hlasts

end RouteNetlinkMessage

end

/-! ## On a little-endian host -/

section Relays

attribute [local instance] Reference.little

namespace RouteNetlinkMessage

/-- A route with an interface arrives, and one with the id of a next hop
object does not. -/
theorem single_relay :
    relay (.newRoute (.single (.oif 7))) = .ok (.newRoute (.single (.oif 7))) ∧
    relay (.newRoute (.single (.nhid 7))) ≠ .ok (.newRoute (.single (.nhid 7))) := by
  have hs : ∀ a : RouteAttribute, a.valueLen ≤ 65531 → (RouteMessage.single a).Sized :=
    fun a ha => List.forall_mem_singleton.2 ha
  constructor
  · refine (relay_eq_self_iff (m := .newRoute (.single (.oif 7))) ?_ (hs _ (by decide))).2 ⟨id, ?_⟩
    · exact RouteMessage.single_wellFormed (by simp) trivial
    · exact List.forall_mem_singleton.2 fun v hv => by cases hv
  · intro h
    have hu := ((relay_eq_self_iff (m := .newRoute (.single (.nhid 7)))
      (RouteMessage.single_wellFormed (by simp) trivial) (hs _ (by decide))).1 h).2
    exact List.forall_mem_singleton.1 hu 7 rfl

/-- A request of one byte is passed on for ever, and a discipline of a kind
that is not known is not. -/
theorem htb_hops_relay :
    (∃ m, deserialize RTM_GETROUTE [10] = .ok m ∧ ∀ n, hops relay n m = .ok m) ∧
    deserialize RTM_NEWQDISC TcMessage.htbBytes = .ok (.newQueueDiscipline TcMessage.htb) ∧
    ¬ ∀ n, hops relay n (.newQueueDiscipline TcMessage.htb) =
      .ok (.newQueueDiscipline TcMessage.htb) := by
  have hhtb : deserialize RTM_NEWQDISC TcMessage.htbBytes =
      .ok (.newQueueDiscipline TcMessage.htb) := rfl
  refine ⟨⟨_, rfl, (hops_relay_iff (t := RTM_GETROUTE) (b := [10]) rfl ?_).2 ?_⟩, hhtb,
    fun h => ?_⟩
  · exact fun a ha => absurd ha List.not_mem_nil
  · exact fun a ha => absurd ha List.not_mem_nil
  · have hs : ∀ a ∈ TcMessage.htb.attributes, a.valueLen ≤ 65531 := by decide
    have hkept : TcMessage.keptOptions TcMessage.htb = 0 := (hops_relay_iff hhtb hs).1 h
    revert hkept
    decide

end RouteNetlinkMessage

end Relays

end NetlinkRoute
