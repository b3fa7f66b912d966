import NetlinkRoute.Common.Kinds
import NetlinkRoute.Message.Frames
/-!
# Messages of all families — what is handed on

The parser of every family makes of an attribute something that it will
write under the same kind (`keepsKind`, of each). So a program that hands
messages on sends an attribute for each that it received, of its kind and
at its place, and no other (`handedOn_of_serialize`). This is so of all
messages that are received, also of those that do not arrive as they were.
Only tunnels are put together anew; they keep their identifiers.
-/

namespace NetlinkRoute

open PacketUtils Emitter

section

variable [PacketUtils]

/-! ## The attributes of each family -/

/-- An attribute of an address is written under the kind it was read from. -/
theorem AddressAttribute.keepsKind : KeepsKind nla parse := by
  refine .of_select (fun nb hv => ?_) fun nb hv => ?_
  · simp [nla, kind, IsKind]
  · simp [hv.carries.defaultNla, nla, kind]

/-- So is an attribute of a prefix. -/
theorem PrefixAttribute.keepsKind : KeepsKind nla parse := by
  refine .of_select (fun nb hv => ?_) fun nb hv => ?_
  · simp [nla, kind, IsKind]
  · simp [hv.carries.defaultNla, nla, kind]

/-- So is an attribute of a namespace. -/
theorem NsidAttribute.keepsKind : KeepsKind nla parse := by
  refine .of_select (fun nb hv => ?_) fun nb hv => ?_
  · simp [nla, kind, IsKind]
  · simp [hv.carries.defaultNla, nla, kind]

/-- So is an attribute of a rule. -/
theorem RuleAttribute.keepsKind : KeepsKind nla parse := by
  refine .of_select (fun nb hv => ?_) fun nb hv => ?_
  · simp [nla, kind, IsKind]
  · simp [hv.carries.defaultNla, nla, kind]

/-- So is an attribute of a neighbour table. -/
theorem NeighbourTableAttribute.keepsKind : KeepsKind nla parse := by
  refine .of_select (fun nb hv => ?_) fun nb hv => ?_
  · simp [nla, kind, IsKind]
  · simp [hv.carries.defaultNla, nla, kind]

/-- In the family of bridges an address is of the kind that it has in the
others. -/
theorem NeighbourAttribute.keepsKind {family : AddressFamily} :
    KeepsKind nla (parseWithParam family) := by
  refine .of_select (fun nb hv => ?_) fun nb hv => ?_
  · simp [nla, kind, IsKind]
    unfold parseDestination
    split <;> simp
  · simp [hv.carries.defaultNla, nla, kind]

/-- An attribute of a next hop keeps its kind under every family. -/
theorem NexthopAttribute.keepsKind {family : AddressFamily} :
    KeepsKind nla (parseWithParam family) := by
  refine .of_select (fun nb hv => ?_) fun nb hv => ?_
  · simp [nla, kind, IsKind]
  · simp [hv.carries.defaultNla, nla, kind]

/-- What is not known loses the flags of its kind, but not the kind. -/
theorem MdbAttribute.keepsKind : KeepsKind nla parseWithParam := by
  refine .of_select (fun nb hv => ?_) fun nb hv => ?_
  · simp [nla, kind, IsKind]
  · simp [nla, kind, UInt16.and_assoc]

/-- An attribute of an action message keeps its kind. -/
theorem TcActionMessageAttribute.keepsKind : KeepsKind nla parse := by
  refine .of_select (fun nb hv => ?_) fun nb hv => ?_
  · simp [nla, kind, IsKind]
  · simp [hv.carries.defaultNla, nla, kind]

/-- An attribute of traffic control keeps its kind under every name before
it. -/
theorem TcAttribute.keepsKind {name : String} : KeepsKind nla (parseWithParam · name) := by
  refine .of_select (fun nb hv => ?_) fun nb hv => ?_
  · simp [nla, kind, IsKind, Outcome.holds_bind]
  · simp [hv.carries.defaultNla, nla, kind]

/-- Where the family of the header decides what an attribute says, it does
not decide of what kind it is. -/
theorem LinkAttribute.keepsKind {family : AddressFamily} :
    KeepsKind nla (parseWithParam family) := by
  refine .of_select (fun nb hv => ?_) fun nb hv => ?_
  · simp [arms, nla, kind, IsKind, Outcome.holds_bind]
    constructor
    · unfold parseProtoInfo
      split <;> simp [hv.carries.defaultNla]
    · unfold parseAfSpec
      split <;> simp
  · simp [hv.carries.defaultNla, nla, kind]

/-- An attribute of a route keeps its kind in every context. -/
theorem RouteAttribute.keepsKind {ctx : RouteContext} : KeepsKind nla (parseWithParam ctx) := by
  refine .of_select (fun nb hv => ?_) fun nb hv => ?_
  · simp [arms, nla, kind, IsKind]
    unfold parseExpires
    split <;> simp
  · simp [hv.carries.defaultNla, nla, kind]

/-! ## Messages -/

/-- A link message is emitted with the kinds it was decoded from. -/
theorem LinkMessage.sameKinds {m : LinkMessage} {b buf out : Bytes} (h : decode b = .ok m)
    (hs : format.Sized m) (hbuf : buf.length = bufferLen m) (hout : (emit m).run buf = .ok out) :
    SameKinds 16 b out := by
  rw [emit_eq] at hout
  rw [bufferLen_eq] at hbuf
  exact each.sameKinds (fun _ => LinkAttribute.keepsKind) (decode_eq.symm.trans h) hs hbuf hout

/-- So is a message of traffic control. -/
theorem TcMessage.sameKinds {m : TcMessage} {b buf out : Bytes} (h : decode b = .ok m)
    (hs : format.Sized m) (hbuf : buf.length = bufferLen m) (hout : (emit m).run buf = .ok out) :
    SameKinds 20 b out := by
  refine sequential.sameKinds (fun _ name nb hv => ?_) h hs hbuf hout
  refine Outcome.holds_bind.2 ((@TcAttribute.keepsKind _ name nb hv).mono fun a ha => ?_)
  exact (Outcome.holds_ok _).2 ha

/-- So is a route. -/
theorem RouteMessage.sameKinds {m : RouteMessage} {b buf out : Bytes} (h : decode b = .ok m)
    (hs : m.Sized) (hbuf : buf.length = m.bufferLen) (hout : m.emit.run buf = .ok out) :
    SameKinds 12 b out := by
  obtain ⟨hle, -⟩ := decode_eq_ok h
  obtain ⟨header, -, heq⟩ := decode_of_le hle
  rw [h] at heq
  obtain ⟨as, has, hm⟩ := (Outcome.bind_eq_ok _ _).1 heq.symm
  have hattrs : as = m.attributes := congrArg RouteMessage.attributes (Outcome.ok.inj hm)
  rw [Outcome.context_eq_ok, hattrs] at has
  have hi : Intact (b.drop 12) := by
    rw [parseEach_eq_forEachFrom] at has
    exact intact_of_forEachFrom has
  exact sameKinds_of_framed hi (map_kind_of_parseEach RouteAttribute.keepsKind has)
    (framed hout hbuf hs)

/-- The identifiers of a tunnel are handed on. -/
theorem TunnelMessage.starts_eq {m : TunnelMessage} {b buf out : Bytes} (h : decode b = .ok m)
    (hbuf : buf.length = m.bufferLen) (hout : m.emit.run buf = .ok out) :
    starts (carried (out.drop 8)) = starts (carried (b.drop 8)) := by
  obtain ⟨hdr, hhdr, rfl⟩ := exists_of_run hout hbuf
  rcases Nat.lt_or_ge b.length 8 with hlt | hle
  · obtain ⟨e, he⟩ := checkedBuffer_of_lt (s := "TunnelMessageBuffer")
      (n := TunnelHeader.codec.len) hlt
    rw [decode, he] at h
    cases h
  · obtain ⟨header, -, -, hdec⟩ := decode_of_le hle
    obtain rfl := Outcome.ok.inj (hdec.symm.trans h)
    rw [List.drop_left' hhdr, carried_encodeNlas (consistent_entryNla _), starts_entryNla]

namespace RouteNetlinkMessage

variable {m : RouteNetlinkMessage} {b buf out : Bytes} {t : UInt16}

/-- What was received and what is sent: attributes of the same kinds in the
same order, and of tunnels the same identifiers. -/
def handedOn (b out : Bytes) : Families Prop where
  link _ := SameKinds 16 b out
  address _ := SameKinds 8 b out
  neighbour _ := SameKinds 12 b out
  neighbourTable _ := SameKinds 4 b out
  route _ := SameKinds 12 b out
  prefixes _ := SameKinds 12 b out
  tc _ := SameKinds 20 b out
  tcAction _ := SameKinds 4 b out
  mdb _ := SameKinds 8 b out
  tunnel _ := TunnelMessage.starts (carried (out.drop 8)) =
    TunnelMessage.starts (carried (b.drop 8))
  nexthop _ := SameKinds 8 b out
  nsid _ := SameKinds 4 b out
  rule _ := SameKinds 12 b out

/-- What was decoded and fits is handed on with its kinds, in every family. -/
theorem handedOn_of_decodedFrom (h : m.inFamily (decodedFrom b)) (hs : m.inFamily sized)
    (hbuf : buf.length = m.bufferLen) (hout : m.serialize.run buf = .ok out) :
    m.inFamily (handedOn b out) := by
  cases m with
  | newLink msg | delLink msg | getLink msg | setLink msg | newLinkProp msg | delLinkProp msg =>
    exact LinkMessage.sameKinds h hs hbuf hout
  | newAddress msg | delAddress msg | getAddress msg =>
    exact AddressMessage.each.sameKinds (fun _ => AddressAttribute.keepsKind) h hs hbuf hout
  | newNeighbour msg | getNeighbour msg | delNeighbour msg =>
    exact NeighbourMessage.each.sameKinds (fun _ => NeighbourAttribute.keepsKind) h hs hbuf hout
  | newNeighbourTable msg | getNeighbourTable msg | setNeighbourTable msg =>
    exact NeighbourTableMessage.each.sameKinds (fun _ => NeighbourTableAttribute.keepsKind)
      h hs hbuf hout
  | newRoute msg | delRoute msg | getRoute msg => exact RouteMessage.sameKinds h hs hbuf hout
  | newPrefix msg =>
    exact PrefixMessage.each.sameKinds (fun _ => PrefixAttribute.keepsKind) h hs hbuf hout
  | newTrafficAction msg | delTrafficAction msg | getTrafficAction msg =>
    exact TcActionMessage.each.sameKinds (fun _ => TcActionMessageAttribute.keepsKind)
      (TcActionMessage.decode_eq.symm.trans h) hs hbuf hout
  | newMdb msg | delMdb msg | getMdb msg =>
    exact MdbMessage.each.sameKinds (fun _ => MdbAttribute.keepsKind) h hs hbuf hout
  | newTunnel msg | delTunnel msg | getTunnel msg => exact TunnelMessage.starts_eq h hbuf hout
  | newNexthop msg | delNexthop msg | getNexthop msg =>
    exact NexthopMessage.each.sameKinds (fun _ => NexthopAttribute.keepsKind) h hs hbuf hout
  | newNsId msg | delNsId msg | getNsId msg =>
    exact NsidMessage.each.sameKinds (fun _ => NsidAttribute.keepsKind) h hs hbuf hout
  | newRule msg | delRule msg | getRule msg =>
    exact RuleMessage.each.sameKinds (fun _ => RuleAttribute.keepsKind) h hs hbuf hout
  | _ msg => exact TcMessage.sameKinds h hs hbuf hout

/-- A request ends before a header would, and is handed on with nothing
behind it. -/
theorem handedOn_of_requestOf (h : m.RequestOf b) (hbuf : buf.length = m.bufferLen)
    (hout : m.serialize.run buf = .ok out) : m.inFamily (handedOn b out) := by
  have hle : b.length ≤ m.headerLen := (length_lt_of_requestOf h).le
  cases m with
  | getLink msg =>
    obtain ⟨family, -, rfl⟩ := h
    exact sameKinds_of_length_le hle
      (LinkMessage.framed hout hbuf fun a ha => absurd ha List.not_mem_nil)
  | getAddress msg =>
    obtain ⟨family, -, rfl⟩ := h
    exact sameKinds_of_length_le hle
      (AddressMessage.format.framed hout hbuf fun a ha => absurd ha List.not_mem_nil)
  | getRoute msg =>
    obtain ⟨family, -, rfl⟩ := h
    exact sameKinds_of_length_le hle
      (RouteMessage.framed hout hbuf fun a ha => absurd ha List.not_mem_nil)
  | _ msg => exact h.elim

/-- **No attribute is lost on the way, and none is added**, whatever the
message is and whatever stood in the buffer. -/
theorem handedOn_of_serialize (h : deserialize t b = .ok m) (hs : m.inFamily sized)
    (hbuf : buf.length = m.bufferLen) (hout : m.serialize.run buf = .ok out) :
    m.inFamily (handedOn b out) := by
  obtain ⟨-, hdec | hreq⟩ := holds_parseWithParam m h
  · exact handedOn_of_decodedFrom hdec hs hbuf hout
  · exact handedOn_of_requestOf hreq hbuf hout

end RouteNetlinkMessage

end

/-! ## On a little-endian host -/

section Kept

attribute [local instance] Reference.little

namespace RouteNetlinkMessage

/-- A discipline of a kind that is not known does not arrive as it was, but
its attributes do. -/
theorem htb_handedOn : ∃ out, (newQueueDiscipline TcMessage.htb).serialize.run (zeros 52) =
    .ok out ∧ SameKinds 20 TcMessage.htbBytes out := by
  have hs : ∀ a ∈ TcMessage.htb.attributes, a.valueLen ≤ 65531 := by decide
  obtain ⟨out, hout⟩ := (endsIf_serialize (m := newQueueDiscipline TcMessage.htb) hs).ends
    (writable_of_decodedFrom.tc _ (show TcMessage.decode TcMessage.htbBytes = _ from rfl))
    (zeros 52) (by decide)
  exact ⟨out, hout, handedOn_of_serialize (t := RTM_NEWQDISC) (b := TcMessage.htbBytes)
    (m := newQueueDiscipline TcMessage.htb) rfl hs (by decide) hout⟩

end RouteNetlinkMessage

end Kept

end NetlinkRoute
