import NetlinkRoute.Route.Message
import NetlinkRoute.Route.Seg6
import NetlinkRoute.Common.Written
/-!
# Routes — what is written of a message

Of all that a route is decoded to, the encoder leaves out one thing: the
TLVs of a segment routing header in a local action. What the other side
gets of a decoded route is therefore the route without these, whatever its
encapsulation and however deep its next hops are, and it is the same after
one hop as after many (`RouteMessage.hops_written`).
-/

namespace NetlinkRoute

open PacketUtils Emitter

/-! ## Values -/

/-- A header without its TLVs. -/
def Ipv6SrHdr.written (v : Ipv6SrHdr) : Ipv6SrHdr := { v with tlvs := [] }

def RouteSeg6LocalIpTunnel.written : RouteSeg6LocalIpTunnel → RouteSeg6LocalIpTunnel
  | .srh v => .srh v.written
  | a => a

def RouteLwTunnelEncap.written : RouteLwTunnelEncap → RouteLwTunnelEncap
  | .seg6Local v => .seg6Local v.written
  | a => a

mutual

/-- What is written of an attribute, and of those inside it. -/
def RouteAttribute.written : RouteAttribute → RouteAttribute
  | .encap l => .encap (l.map RouteLwTunnelEncap.written)
  | .multiPath nhs => .multiPath (RouteNextHop.writtenAll nhs)
  | a => a

/-- What is written of these next hops. -/
def RouteNextHop.writtenAll : List RouteNextHop → List RouteNextHop
  | [] => []
  | ⟨flags, hops, index, attributes⟩ :: nhs =>
    ⟨flags, hops, index, RouteAttribute.writtenAll attributes⟩ :: RouteNextHop.writtenAll nhs

/-- What is written of these attributes. -/
def RouteAttribute.writtenAll : List RouteAttribute → List RouteAttribute
  | [] => []
  | a :: as => a.written :: RouteAttribute.writtenAll as

end

def RouteNextHop.written (nh : RouteNextHop) : RouteNextHop :=
  { nh with attributes := nh.attributes.map RouteAttribute.written }

def RouteMessage.written (m : RouteMessage) : RouteMessage :=
  { m with attributes := m.attributes.map RouteAttribute.written }

/-- The recursion over the attributes of a hop is the ordinary map. -/
theorem RouteAttribute.writtenAll_eq (as : List RouteAttribute) :
    RouteAttribute.writtenAll as = as.map RouteAttribute.written := by
  induction as with
  | nil => rfl
  | cons a as ih => rw [RouteAttribute.writtenAll, ih, List.map_cons]

/-- So is the one over hops. -/
theorem RouteNextHop.writtenAll_eq (nhs : List RouteNextHop) :
    RouteNextHop.writtenAll nhs = nhs.map RouteNextHop.written := by
  induction nhs with
  | nil => rfl
  | cons nh nhs ih =>
    obtain ⟨flags, hops, index, attributes⟩ := nh
    rw [RouteNextHop.writtenAll, ih, RouteAttribute.writtenAll_eq, List.map_cons,
      RouteNextHop.written]

/-- A list of hops is written hop by hop. -/
theorem RouteAttribute.written_multiPath (nhs : List RouteNextHop) :
    (RouteAttribute.multiPath nhs).written = .multiPath (nhs.map RouteNextHop.written) := by
  rw [RouteAttribute.written, RouteNextHop.writtenAll_eq]

section Values

variable {P Q : RouteAttribute → Prop} {a : RouteAttribute}

/-- What is written of the attribute inside follows what is inside. -/
theorem RouteAttribute.Everywhere.written (h : a.Everywhere P) (hi : ∀ a, P a → Q a.written) :
    a.written.Everywhere Q := by
  induction a using RouteAttribute.ind with
  | multi nhs ih =>
    obtain ⟨hp, hall⟩ := RouteAttribute.everywhere_multiPath_iff.1 h
    have hq := hi _ hp
    rw [RouteAttribute.written_multiPath] at hq ⊢
    refine RouteAttribute.everywhere_multiPath_iff.2 ⟨hq, ?_⟩
    simp only [List.forall_mem_map, RouteNextHop.written]
    exact fun nh hnh a ha => ih nh hnh a ha (hall nh hnh a ha)
  | flat a hflat =>
    have hp := (RouteAttribute.everywhere_flat_iff hflat).1 h
    refine (RouteAttribute.everywhere_flat_iff fun nhs => ?_).2 (hi a hp)
    cases a with
    | multiPath nhs' => exact absurd rfl (hflat nhs')
    | _ => simp [RouteAttribute.written]

/-- There are no TLVs in a local action of this attribute. -/
def RouteAttribute.NoTlvs : RouteAttribute → Prop
  | .encap l => ∀ v, .seg6Local (.srh v) ∈ l → v.tlvs = []
  | _ => True

/-- An encapsulation is written whole unless its routing header carries more
than segments. -/
theorem RouteLwTunnelEncap.written_eq_iff {e : RouteLwTunnelEncap} :
    e.written = e ↔ ∀ v, e = .seg6Local (.srh v) → v.tlvs = [] := by
  cases e with
  | seg6Local v =>
    cases v with
    | srh v =>
      obtain ⟨nexthdr, hdrlen, typ, segmentsLeft, firstSegment, flags, tag, segments, tlvs⟩ := v
      simp [RouteLwTunnelEncap.written, RouteSeg6LocalIpTunnel.written, Ipv6SrHdr.written,
        eq_comm]
    | _ => simp [RouteLwTunnelEncap.written, RouteSeg6LocalIpTunnel.written]
  | _ => simp [RouteLwTunnelEncap.written]

/-- What is written carries segments only. -/
theorem RouteLwTunnelEncap.tlvs_of_written (e : RouteLwTunnelEncap) {v : Ipv6SrHdr}
    (h : e.written = .seg6Local (.srh v)) : v.tlvs = [] := by
  cases e with
  | seg6Local w =>
    cases w with
    | srh w =>
      simp only [RouteLwTunnelEncap.written, RouteSeg6LocalIpTunnel.written,
        RouteLwTunnelEncap.seg6Local.injEq, RouteSeg6LocalIpTunnel.srh.injEq] at h
      rw [← h]
      rfl
    | _ => simp [RouteLwTunnelEncap.written, RouteSeg6LocalIpTunnel.written] at h
  | _ => simp [RouteLwTunnelEncap.written] at h

/-- All of a list is written when all of each of its elements is. -/
private theorem map_written_eq_iff {α : Type} {f : α → α} {l : List α} :
    l.map f = l ↔ ∀ a ∈ l, f a = a := by
  rw [← List.map_inj_left, List.map_id']

/-- **All of an attribute is written when there are no TLVs in it**, at any
nesting. -/
theorem RouteAttribute.written_eq_iff : a.written = a ↔ a.Everywhere RouteAttribute.NoTlvs := by
  induction a using RouteAttribute.ind with
  | multi nhs ih =>
    have hnh : ∀ nh ∈ nhs, nh.written = nh ↔ ∀ a ∈ nh.attributes, a.Everywhere NoTlvs := by
      intro nh hnh
      obtain ⟨flags, hops, index, attributes⟩ := nh
      simp only [RouteNextHop.written, RouteNextHop.mk.injEq, true_and, map_written_eq_iff]
      exact forall₂_congr (ih _ hnh)
    rw [RouteAttribute.written_multiPath, RouteAttribute.multiPath.injEq, map_written_eq_iff,
      RouteAttribute.everywhere_multiPath_iff, forall₂_congr hnh]
    exact ⟨fun h => ⟨trivial, h⟩, fun h => h.2⟩
  | flat a hflat =>
    rw [RouteAttribute.everywhere_flat_iff hflat]
    cases a with
    | multiPath nhs => exact absurd rfl (hflat nhs)
    | encap l =>
      simp only [RouteAttribute.written, RouteAttribute.encap.injEq, map_written_eq_iff,
        RouteLwTunnelEncap.written_eq_iff, RouteAttribute.NoTlvs]
      exact ⟨fun h v hv => h _ hv v rfl, fun h e he v heq => h v (heq ▸ he)⟩
    | _ => simp [RouteAttribute.written, RouteAttribute.NoTlvs]

/-- What is written is all written. -/
theorem RouteAttribute.written_written (a : RouteAttribute) : a.written.written = a.written := by
  refine RouteAttribute.written_eq_iff.2 ?_
  have h : a.Everywhere fun _ => True := by
    induction a using RouteAttribute.ind with
    | multi nhs ih => exact RouteAttribute.everywhere_multiPath_iff.2 ⟨trivial, ih⟩
    | flat a hflat => exact (RouteAttribute.everywhere_flat_iff hflat).2 trivial
  refine h.written fun a _ => ?_
  cases a with
  | encap l =>
    intro v hv
    obtain ⟨e, -, he⟩ := List.mem_map.1 hv
    exact e.tlvs_of_written he
  | _ => trivial

end Values

/-! ## The bytes -/

section

variable [PacketUtils] {a : RouteAttribute} {m : RouteMessage} {b : Bytes} {nb : NlaBuffer}
  {kind : RouteLwEnCapType} {ctx : RouteContext}

/-- What is left out was never emitted. -/
theorem RouteLwTunnelEncap.nla_written (e : RouteLwTunnelEncap) : e.written.nla = e.nla := by
  cases e with
  | seg6Local v => cases v <;> rfl
  | _ => rfl

/-- A hop whose attributes are emitted alike is emitted alike. -/
theorem RouteNextHop.written_of_nla {nh : RouteNextHop}
    (h : ∀ a ∈ nh.attributes, a.written.nla = a.nla) :
    nh.written.bufferLen = nh.bufferLen ∧ nh.written.emit = nh.emit := by
  have hmap : nh.written.attributes.map RouteAttribute.nla =
      nh.attributes.map RouteAttribute.nla := by
    rw [RouteNextHop.written, List.map_map]
    exact List.map_congr_left h
  have hlen : nh.written.bufferLen = nh.bufferLen := by
    rw [RouteNextHop.bufferLen_eq, RouteNextHop.bufferLen_eq, hmap]
  refine ⟨hlen, ?_⟩
  rw [RouteNextHop.emit_eq, RouteNextHop.emit_eq, hmap, RouteNextHop.layout, RouteNextHop.layout,
    hlen]
  rfl

/-- **It is written to the same bytes.** -/
theorem RouteAttribute.nla_written (a : RouteAttribute) : a.written.nla = a.nla := by
  induction a using RouteAttribute.ind with
  | multi nhs ih =>
    have hnh : ∀ nh ∈ nhs, nh.written.bufferLen = nh.bufferLen ∧ nh.written.emit = nh.emit :=
      fun nh hnh => RouteNextHop.written_of_nla (ih nh hnh)
    have hlen : (nhs.map RouteNextHop.written).map RouteNextHop.bufferLen =
        nhs.map RouteNextHop.bufferLen := by
      rw [List.map_map]
      exact List.map_congr_left fun nh h => (hnh nh h).1
    have hitems : (nhs.map RouteNextHop.written).map (fun nh => (nh.bufferLen, nh.emit)) =
        nhs.map fun nh => (nh.bufferLen, nh.emit) := by
      rw [List.map_map]
      exact List.map_congr_left fun nh h => Prod.ext (hnh nh h).1 (hnh nh h).2
    rw [RouteAttribute.written_multiPath]
    simp only [RouteAttribute.nla, RouteAttribute.valueLen, RouteAttribute.emitValue,
      RouteNextHop.bufferLenSum_eq, RouteNextHop.items_eq, hlen, hitems]
    rfl
  | flat a hflat =>
    cases a with
    | multiPath nhs => exact absurd rfl (hflat nhs)
    | encap l =>
      have hmap : (l.map RouteLwTunnelEncap.written).map RouteLwTunnelEncap.nla =
          l.map RouteLwTunnelEncap.nla := by
        rw [List.map_map]
        exact List.map_congr_left fun e _ => e.nla_written
      simp only [RouteAttribute.written, RouteAttribute.nla, RouteAttribute.valueLen,
        RouteAttribute.emitValue, hmap]
      rfl
    | _ => rfl

namespace RouteMessage

/-- A route and what is written of it have the same attributes on the wire. -/
theorem map_nla_written : m.written.attributes.map RouteAttribute.nla =
    m.attributes.map RouteAttribute.nla := by
  rw [written, List.map_map]
  exact List.map_congr_left fun a _ => a.nla_written

/-- They take as many bytes. -/
theorem bufferLen_written : m.written.bufferLen = m.bufferLen := by
  rw [bufferLen, bufferLen, map_nla_written]

/-- They are emitted alike. -/
theorem emit_written : m.written.emit = m.emit := by
  rw [emit, emit, map_nla_written]
  rfl

/-- Each fits where the other does. -/
theorem sized_written_iff : m.written.Sized ↔ m.Sized := by
  have hlen : ∀ a : RouteAttribute, a.written.valueLen = a.valueLen :=
    fun a => congrArg Nla.valueLen a.nla_written
  simp only [Sized, written, List.forall_mem_map, hlen]

omit [PacketUtils] in
/-- Both select the same encapsulation. -/
theorem encapTypeOf_written (as : List RouteAttribute) :
    encapTypeOf (as.map RouteAttribute.written) = encapTypeOf as := by
  induction as with
  | nil => rfl
  | cons a as ih =>
    cases a with
    | encapType v => rfl
    | _ => exact ih

omit [PacketUtils] in
/-- Both give the same context. -/
theorem context_written : m.written.context = m.context := by
  rw [context, context, written, encapTypeOf_written]

omit [PacketUtils] in
/-- A route is written whole exactly where no routing header in it carries
more than segments. -/
theorem written_eq_iff :
    m.written = m ↔ ∀ a ∈ m.attributes, a.Everywhere RouteAttribute.NoTlvs := by
  obtain ⟨header, attributes⟩ := m
  simp only [written, RouteMessage.mk.injEq, true_and, map_written_eq_iff,
    RouteAttribute.written_eq_iff]

end RouteMessage

/-! ## What is decoded -/

/-- A header that is decoded is, but for its TLVs, one that comes back. -/
theorem Ipv6SrHdr.holds_written {payload : Bytes} :
    (Ipv6SrHdr.parse payload).Holds fun v => v.written.WellFormed := by
  intro v hv
  obtain ⟨hr, -⟩ := readable_of_parse hv
  obtain ⟨h, hw, -, -, hparse⟩ := parse_of_count_le hr.count_le hr.end_le
  obtain ⟨tlvs, -, rfl⟩ := (Outcome.map_eq_ok _).1 (hparse.symm.trans hv)
  exact ⟨rfl, hw.2⟩

/-- The parser of counters gives well-formed ones only. -/
theorem Seg6LocalCounters.holds_parse (hv : NlaValid nb.buffer) :
    (Seg6LocalCounters.parse nb).Holds WellFormed := by
  rw [parse, hv.carries.bind]
  refine holds_select ?_ fun hk => ?_
  · simp [WellFormed]
  · rw [hv.carries.defaultNla]
    exact (Outcome.holds_ok _).2 hk

/-- So does the one of flavours. -/
theorem Seg6LocalFlavors.holds_parse (hv : NlaValid nb.buffer) :
    (Seg6LocalFlavors.parse nb).Holds WellFormed := by
  rw [parse, hv.carries.bind]
  refine holds_select ?_ fun hk => ?_
  · simp [WellFormed]
  · rw [hv.carries.defaultNla]
    exact (Outcome.holds_ok _).2 hk

/-- What is written of a parsed local segment is well formed. -/
theorem RouteSeg6LocalIpTunnel.holds_written (hv : NlaValid nb.buffer) :
    (RouteSeg6LocalIpTunnel.parse nb).Holds fun a => a.written.WellFormed := by
  have hcounters : ∀ {e e'}, (parseNlas e e' Seg6LocalCounters.parse (nlaValue nb.buffer)).Holds
      fun l => ∀ c ∈ l, c.WellFormed :=
    holds_parseNlas fun _ hnb => Seg6LocalCounters.holds_parse (valid_of_mem_nlas hnb)
  have hflavors : ∀ {e e'}, (parseNlas e e' Seg6LocalFlavors.parse (nlaValue nb.buffer)).Holds
      fun l => ∀ f ∈ l, f.WellFormed :=
    holds_parseNlas fun _ hnb => Seg6LocalFlavors.holds_parse (valid_of_mem_nlas hnb)
  rw [parse, hv.carries.bind]
  refine holds_select ?_ fun hk => ?_
  · simp [RouteSeg6LocalIpTunnel.written, WellFormed, hcounters, hflavors,
      Ipv6SrHdr.holds_written]
  · rw [hv.carries.defaultNla]
    exact (Outcome.holds_ok _).2 hk

/-- What is written of a parsed encapsulation is well formed under its type.
-/
theorem RouteLwTunnelEncap.holds_written (hv : NlaValid nb.buffer) :
    (parseWithParam kind nb).Holds fun e => e.written.WellFormed kind := by
  cases kind with
  | mpls => exact Outcome.holds_map.2 (RouteMplsIpTunnel.holds_parse hv)
  | seg6 => exact Outcome.holds_map.2 (RouteSeg6IpTunnel.holds_parse hv)
  | seg6Local => exact Outcome.holds_map.2 (RouteSeg6LocalIpTunnel.holds_written hv)
  | _ => simp [parseWithParam, hv.carries.defaultNla, WellFormed, RouteLwTunnelEncap.written]

/-- **An attribute that is decoded is, but for what is not written, well
formed**, under every encapsulation. -/
theorem RouteAttribute.holds_written (hv : NlaValid nb.buffer) :
    (parseWithParam ctx nb).Holds fun a => a.written.WellFormed ctx := by
  rw [parseWithParam_of_carries hv.carries]
  refine holds_select ?_ fun hk => ?_
  · have haddr := @RouteAddress.holds_parse ctx.addressFamily (nlaValue nb.buffer)
    have hencaps : (RouteLwTunnelEncap.parseVec ctx.encapType nb).Holds
        fun l => ∀ e ∈ l, e.written.WellFormed ctx.encapType := by
      rw [RouteLwTunnelEncap.parseVec, hv.carries.value, Outcome.ok_bind]
      exact holds_parseNlas fun nb' hnb' =>
        RouteLwTunnelEncap.holds_written (valid_of_mem_nlas hnb')
    have hmetrics : (RouteMetric.parseVec (nlaValue nb.buffer)).Holds
        fun l => ∀ m ∈ l, m.WellFormed :=
      holds_parseNlas fun nb' hnb' => RouteMetric.holds_parse (valid_of_mem_nlas hnb')
    have hexpires : (parseExpires ctx.routeType (nlaValue nb.buffer)).Holds
        fun a => a.written.WellFormed ctx := by
      unfold parseExpires
      split
      · next h => simp [RouteAttribute.written, WellFormed, h]
      · next h => simp [RouteAttribute.written, WellFormed, h]
    have hloop := @RouteNextHop.holds_parseLoop_ne_nil _ (parseWithParam ctx)
      ((nlaValue nb.buffer).length + 1) (nlaValue nb.buffer)
    simpa [arms, RouteAttribute.written, RouteNextHop.writtenAll_eq, WellFormed, haddr, hencaps,
      hmetrics, hloop] using hexpires
  · rw [hv.carries.defaultNla]
    exact (Outcome.holds_ok _).2 hk

namespace RouteMessage

/-- A decoded message is, but for what is not written, well formed. -/
theorem wellFormed_written (h : decode b = .ok m) : m.written.WellFormed := by
  obtain ⟨hle, hh, -⟩ := decode_eq_ok h
  obtain ⟨header, hheader, hw⟩ := RouteHeader.parse_of_le hle
  obtain rfl := Outcome.ok.inj (hh.symm.trans hheader)
  refine ⟨hw, ?_⟩
  rw [context_written, written, List.forall_mem_map]
  intro a ha
  obtain ⟨nb, hv, hp⟩ := exists_of_mem_attributes h ha
  exact (RouteAttribute.holds_everywhere (fun _ => RouteAttribute.holds_written) hv a hp).written
    fun _ => id

/-- Nor does what is written of a decoded route have an identifier of a next
hop. -/
theorem notNhid_written (h : decode b = .ok m) :
    ∀ a ∈ m.written.attributes, a.Everywhere RouteAttribute.NotNhid := by
  rw [written, List.forall_mem_map]
  intro a ha
  refine (notNhid_of_decode h a ha).written fun a hn v => ?_
  cases a with
  | nhid w => exact absurd rfl (hn w)
  | _ => simp [RouteAttribute.written]

/-- What the other side gets of a message. -/
def hop (m : RouteMessage) : Outcome RouteMessage := passOn emit bufferLen decode m

/-- **What was decoded arrives without its TLVs.** -/
theorem hop_eq_written (h : decode b = .ok m) (hs : m.Sized) : hop m = .ok m.written := by
  have hw := wellFormed_written h
  have hn := notNhid_written h
  have hs' := sized_written_iff.2 hs
  obtain ⟨out, hout, hdec⟩ := decode_emitted_of_roundTrips hw.1 hs' fun a ha =>
    RouteAttribute.roundTrips (hw.2 a ha) (hn a ha) (hs' a ha)
  rw [emit_written, bufferLen_written] at hout
  exact passOn_eq_ok_iff.2 ⟨out, hout, hdec⟩

/-- A decoded route comes back exactly where it is written whole. -/
theorem comesBack_iff_written (h : decode b = .ok m) (hs : m.Sized) :
    (∃ out, Fills m.emit m.bufferLen out ∧ decode out = .ok m) ↔ m.written = m := by
  have hiff : (∃ out, Fills m.emit m.bufferLen out ∧ decode out = .ok m) ↔ hop m = .ok m :=
    passOn_eq_ok_iff.symm
  rw [hiff, hop_eq_written h hs, Outcome.ok.injEq]

/-- **After one hop nothing changes any more**: over any number of hops
what was decoded arrives without its TLVs, and so as it was exactly when
there were none in it, at any nesting. -/
theorem hops_written (h : decode b = .ok m) (hs : m.Sized) :
    (∀ n, hops hop (n + 1) m = .ok m.written) ∧
      (m.written = m ↔ ∀ a ∈ m.attributes, a.Everywhere RouteAttribute.NoTlvs) := by
  refine ⟨fun n => ?_, written_eq_iff⟩
  have hfirst := hop_eq_written h hs
  have hself : m.written.written = m.written := by
    have hmap : (m.attributes.map RouteAttribute.written).map RouteAttribute.written =
        m.attributes.map RouteAttribute.written := by
      rw [List.map_map]
      exact List.map_congr_left fun a _ => a.written_written
    rw [written, written, hmap]
  obtain ⟨out, -, hdec⟩ := passOn_eq_ok_iff.1 hfirst
  have hnext := hop_eq_written hdec (sized_written_iff.2 hs)
  rw [hself] at hnext
  rw [hops, hfirst, Outcome.ok_bind, hops_of_eq hnext]

end RouteMessage

end

/-! ## On a little-endian host -/

namespace RouteMessage

section Concrete

attribute [local instance] Reference.little

/-- A segment routing header with an HMAC. -/
def hmacHeader : Ipv6SrHdr :=
  ⟨41, 2, 4, 0, 0, 0, 0, [⟨zeros 16, rfl⟩], [.hmac ⟨false, 0, zeros 32⟩]⟩

/-- A route with it in its local action. -/
def withHmac : RouteMessage :=
  ⟨.default_, [.encapType .seg6Local, .encap [.seg6Local (.srh hmacHeader)]]⟩

/-- It was decoded, and no hop hands the HMAC on. -/
theorem withHmac_written : (∃ b, decode b = .ok withHmac) ∧
    (∀ n, hops hop (n + 1) withHmac = .ok withHmac.written) ∧ withHmac.written ≠ withHmac := by
  have hdec : decode (zeros 12 ++ ([6, 0, 21, 0, 7, 0, 0, 0, 72, 0, 22, 0, 68, 0, 2, 0] ++
      (Ipv6SrHdr.oneSegment ++ Ipv6SrHdr.zeroHmac))) = .ok withHmac := rfl
  have hs : withHmac.Sized := by
    intro a ha
    simp only [withHmac, List.mem_cons, List.not_mem_nil, or_false] at ha
    rcases ha with rfl | rfl <;> decide
  obtain ⟨hhops, hiff⟩ := hops_written hdec hs
  refine ⟨⟨_, hdec⟩, hhops, fun h => ?_⟩
  have htlvs : hmacHeader.tlvs = [] :=
    hiff.1 h (.encap [.seg6Local (.srh hmacHeader)]) (by simp [withHmac]) _
      (List.mem_singleton_self _)
  cases htlvs

end Concrete

end RouteMessage

end NetlinkRoute
