import NetlinkRoute.Common.Within
import NetlinkRoute.Link.Writable
import NetlinkRoute.Message.Relay
import NetlinkRoute.Route.Writable
import NetlinkRoute.Tc.Writable
/-!
# Messages of all families — what can be written

A program gives `serialize` a buffer of the length that the message asks
for. Whatever stands in it, the message is written, and nothing outside
it; unless it is about links and has a value in it that cannot be written,
or it is about traffic control and has a selector in it with more keys
than it counts: then the program panics (`serialize_returns_iff`). What
was received has nothing of the kind in it, and can always be sent on
(`serialize_of_deserialize`). In a longer buffer it is the same, and what is
behind the message stays (`serialize_longer`).
-/

namespace NetlinkRoute

open PacketUtils Emitter

section

variable [PacketUtils]

/-! ## The attributes of the other families -/

/-- An attribute of an address fits the length it announces. -/
theorem AddressAttribute.ends (a : AddressAttribute) : Ends a.emitValue a.valueLen := by
  cases a with
  | address addr | local_ addr =>
    cases addr <;> simp [emitValue, valueLen, IpAddr.octets, ipAddrLen]
  | _ => simp [emitValue, valueLen]

/-- So does one of a prefix. -/
theorem PrefixAttribute.ends (a : PrefixAttribute) : Ends a.emitValue a.valueLen := by
  cases a <;> simp [emitValue, valueLen]

omit [PacketUtils] in
theorem FdbExtAttr.ends (a : FdbExtAttr) : Ends a.emitValue a.valueLen := by
  cases a <;> simp [emitValue, valueLen]

/-- An attribute of a neighbour may hold a nested list, which has to be
framed. -/
theorem NeighbourAttribute.ends (a : NeighbourAttribute) (hs : Frames a.valueLen) :
    Ends a.emitValue a.valueLen := by
  cases a with
  | fdbExtAttrs l => exact ends_emitNlas hs fun a _ _ => a.ends
  | destination v | tunnelEndpoint v => exact NeighbourAddress.writes_emit.uniform.ends
  | _ => simp [emitValue, valueLen, RouteProtocol.emit]

theorem NeighbourTableParameter.ends (a : NeighbourTableParameter) :
    Ends a.emitValue a.valueLen := by
  cases a <;> simp [emitValue, valueLen]

/-- So may one of a neighbour table. -/
theorem NeighbourTableAttribute.ends (a : NeighbourTableAttribute) (hs : Frames a.valueLen) :
    Ends a.emitValue a.valueLen := by
  cases a with
  | parms l => exact ends_emitNlas hs fun a _ _ => a.ends
  | _ => simp [emitValue, valueLen]

omit [PacketUtils] in
theorem MdbAttribute.ends (a : MdbAttribute) : Ends a.emitValue a.valueLen :=
  a.uniform_emitValue.ends

theorem NsidAttribute.ends (a : NsidAttribute) : Ends a.emitValue a.valueLen := by
  cases a <;> simp [emitValue, valueLen]

/-- So may one of a next hop, its encapsulation. -/
theorem NexthopAttribute.ends (a : NexthopAttribute) (hs : Frames a.valueLen) :
    Ends a.emitValue a.valueLen := by
  cases a with
  | group l => exact NexthopGroup.writes_emit_groups.uniform.ends
  | gateway addr => exact RouteAddress.writes_emit.uniform.ends
  | encap l => exact ends_emitNlas hs fun a _ ha => a.ends ha
  | _ => simp [emitValue, valueLen]

/-- An attribute of a rule holds no list. -/
theorem RuleAttribute.ends (a : RuleAttribute) : Ends a.emitValue a.valueLen := by
  cases a with
  | destination ip | source ip =>
    cases ip <;> simp [emitValue, valueLen, emitIpToBuffer, ipAddrLen, IpAddr.octets]
  | realm v => exact RouteRealm.writes_emit.uniform.ends
  | _ => simp [emitValue, valueLen]

/-- The entries of a tunnel, behind its header. -/
theorem TunnelMessage.ends (m : TunnelMessage) : Ends m.emit m.bufferLen := by
  have hentries : Ends (inTurn (m.vnis.map fun vni => (ENTRY_LEN, fields (entryLayout vni))))
      (m.vnis.length * ENTRY_LEN) := by
    have hends := ends_inTurn_map (f := fun vni => fields (entryLayout vni))
      fun vni (_ : vni ∈ m.vnis) => (writes_entry vni).uniform.ends
    have hsum : (m.vnis.map fun _ => ENTRY_LEN).sum = m.vnis.length * ENTRY_LEN := by simp
    rwa [hsum] at hends
  have hheader : Ends (onSlice 0 8 (TunnelHeader.codec.emit m.header)) m.bufferLen := by
    have h8 : EndsIf (TunnelHeader.codec.emit m.header) (8 - 0) True :=
      HeaderCodec.ends_emit_len.endsIf trivial
    exact (h8.onSlice (Nat.zero_le _)).ends ⟨Nat.le_add_right _ _, trivial⟩
  exact hheader.andThen_onTail hentries rfl

/-! ## Longer buffers -/

/-- A route writes no byte behind its own length. -/
theorem RouteMessage.within_emit (m : RouteMessage) : Within m.emit m.bufferLen :=
  (RouteHeader.covers_emit.within.mono RouteHeader.length_layout.le).andThen_onTail
    within_emitNlas

/-- Neither does a tunnel message. -/
theorem TunnelMessage.within_emit (m : TunnelMessage) : Within m.emit m.bufferLen := by
  have hentries : Within (inTurn (m.vnis.map fun vni => (ENTRY_LEN, fields (entryLayout vni))))
      (m.vnis.length * ENTRY_LEN) := by
    have hlen : itemsLen (m.vnis.map fun vni => (ENTRY_LEN, fields (entryLayout vni))) =
        m.vnis.length * ENTRY_LEN := by simp [itemsLen, Function.comp_def]
    exact hlen ▸ within_inTurn
  exact (within_onSlice (Nat.zero_le _) (Nat.le_refl 8)).andThen_onTail hentries

/-- A message whose attributes can be written can be. -/
theorem MessageFormat.ends_emit {η α : Type} (F : MessageFormat η α) {m : Message η α}
    (hs : F.Sized m) (h : ∀ a, Frames (F.nla a).valueLen → Ends (F.nla a).emitValue
      (F.nla a).valueLen) : Ends (F.emit m) (F.bufferLen m) :=
  (F.endsIf_emit hs.frames fun a ha => (h a (hs.frames a ha)).endsIf trivial).ends
    fun _ _ => trivial

namespace RouteNetlinkMessage

variable {m : RouteNetlinkMessage} {b buf : Bytes} {t : UInt16}

/-- What can be written, of each family. -/
def writable : Families Prop where
  link msg := ¬ LinkMessage.Unwritable msg
  address _ := True
  neighbour _ := True
  neighbourTable _ := True
  route _ := True
  prefixes _ := True
  tc msg := ¬ TcMessage.Unwritable msg
  tcAction _ := True
  mdb _ := True
  tunnel _ := True
  nexthop _ := True
  nsid _ := True
  rule _ := True

/-- **A message is written when it can be**, and the program panics
otherwise. -/
theorem endsIf_serialize (hs : m.inFamily sized) :
    EndsIf m.serialize m.bufferLen (m.inFamily writable) := by
  cases m with
  | newLink msg | delLink msg | getLink msg | setLink msg | newLinkProp msg | delLinkProp msg =>
    exact LinkMessage.endsIf_emit msg (MessageFormat.Sized.frames hs)
  | newAddress msg | delAddress msg | getAddress msg =>
    exact (AddressMessage.format.ends_emit hs fun a _ => AddressAttribute.ends a).endsIf trivial
  | newNeighbour msg | getNeighbour msg | delNeighbour msg =>
    exact (NeighbourMessage.format.ends_emit hs NeighbourAttribute.ends).endsIf trivial
  | newNeighbourTable msg | getNeighbourTable msg | setNeighbourTable msg =>
    exact (NeighbourTableMessage.format.ends_emit hs NeighbourTableAttribute.ends).endsIf trivial
  | newRoute msg | delRoute msg | getRoute msg => exact (msg.ends hs).endsIf trivial
  | newPrefix msg =>
    exact (PrefixMessage.format.ends_emit hs fun a _ => PrefixAttribute.ends a).endsIf trivial
  | newTrafficAction msg | delTrafficAction msg | getTrafficAction msg =>
    exact (TcActionMessage.ends msg hs).endsIf trivial
  | newMdb msg | delMdb msg | getMdb msg =>
    exact (MdbMessage.format.ends_emit hs fun a _ => MdbAttribute.ends a).endsIf trivial
  | newTunnel msg | delTunnel msg | getTunnel msg => exact msg.ends.endsIf trivial
  | newNexthop msg | delNexthop msg | getNexthop msg =>
    exact (NexthopMessage.format.ends_emit hs NexthopAttribute.ends).endsIf trivial
  | newNsId msg | delNsId msg | getNsId msg =>
    exact (NsidMessage.format.ends_emit hs fun a _ => NsidAttribute.ends a).endsIf trivial
  | newRule msg | delRule msg | getRule msg =>
    exact (RuleMessage.format.ends_emit hs fun a _ => RuleAttribute.ends a).endsIf trivial
  | _ msg => exact TcMessage.endsIf_emit msg hs

end RouteNetlinkMessage

/-! ## What was received -/

/-- A well-formed link has nothing in it that cannot be written. -/
theorem LinkMessage.not_unwritable_of_wellFormed {m : LinkMessage} (hw : WellFormed m) :
    ¬ Unwritable m := by
  intro hu
  induction hu with
  | extMask h hv =>
    obtain ⟨-, hattrs, -, -⟩ := hw
    obtain ⟨d, -, hd⟩ := hattrs _ h
    exact hv (LinkExtentMask.exists_toMask_iff.1 ⟨d, hd⟩)
  | physPortId h hv | physSwitchId h hv =>
    obtain ⟨-, hattrs, -, -⟩ := hw
    have hlt := (hattrs _ h).1
    omega
  | peer h hp _ ih =>
    obtain ⟨-, -, -, hpeers⟩ := hw
    exact ih (hpeers _ _ h hp)

/-- Nor has a message of traffic control whose attributes fit where they
stand. -/
theorem TcMessage.not_unwritable_of_fitting {m : TcMessage} (hf : Fitting m) :
    ¬ Unwritable m := by
  rintro ⟨l, s, hl, hs, hlt⟩
  obtain ⟨kind, hfits⟩ := hf.2.of_mem hl
  have hfits : VecTcOption.Fits kind l := hfits
  unfold VecTcOption.Fits at hfits
  split at hfits
  · have hcount : s.nkeys.toNat = s.keys.length := (hfits _ hs).2
    omega
  · obtain ⟨d, rfl⟩ := hfits
    cases List.mem_singleton.1 hs

namespace RouteNetlinkMessage

variable {m : RouteNetlinkMessage} {b buf : Bytes} {t : UInt16}

/-- What was decoded can be written, in every family. -/
theorem writable_of_decodedFrom : (decodedFrom b).Implies writable where
  link _ h := LinkMessage.not_unwritable_of_wellFormed (LinkMessage.wellFormed_of_decode h)
  address _ _ := trivial
  neighbour _ _ := trivial
  neighbourTable _ _ := trivial
  route _ _ := trivial
  prefixes _ _ := trivial
  tc _ h := TcMessage.not_unwritable_of_fitting (TcMessage.decode_fits h)
  tcAction _ _ := trivial
  mdb _ _ := trivial
  tunnel _ _ := trivial
  nexthop _ _ := trivial
  nsid _ _ := trivial
  rule _ _ := trivial

omit [PacketUtils] in
/-- A request has no attributes. -/
theorem writable_of_requestOf (h : m.RequestOf b) : m.inFamily writable := by
  cases m with
  | getLink msg =>
    obtain ⟨family, -, rfl⟩ := h
    exact LinkMessage.not_unwritable_iff.2 fun a ha => absurd ha List.not_mem_nil
  | getAddress msg | getRoute msg => trivial
  | _ msg => exact h.elim

/-- **Written or not.** Into a buffer of its length, whatever is in it, a
message whose attributes fit their length fields is written if it can be,
and the program panics if it cannot. -/
theorem serialize_returns_iff (hs : m.inFamily sized) (hbuf : buf.length = m.bufferLen) :
    ((∃ out, m.serialize.run buf = .ok out) ↔ m.inFamily writable) ∧
      (m.serialize.run buf = .panic ↔ ¬ m.inFamily writable) :=
  ⟨(endsIf_serialize hs).ok_iff hbuf, (endsIf_serialize hs).panic_iff hbuf⟩

/-- **What was received can be sent on.** -/
theorem serialize_of_deserialize (h : deserialize t b = .ok m) (hs : m.inFamily sized)
    (hbuf : buf.length = m.bufferLen) : ∃ out, m.serialize.run buf = .ok out := by
  obtain ⟨-, hm⟩ := holds_parseWithParam m h
  have hw : m.inFamily writable := by
    rcases hm with hdec | hreq
    · exact inFamily_mono writable_of_decodedFrom m hdec
    · exact writable_of_requestOf hreq
  exact (endsIf_serialize hs).ends hw buf hbuf

/-! ### In a longer buffer -/

/-- A message keeps to the room that it asks for. -/
theorem within_serialize (m : RouteNetlinkMessage) : Within m.serialize m.bufferLen := by
  cases m with
  | newLink msg | delLink msg | getLink msg | setLink msg | newLinkProp msg | delLinkProp msg =>
    show Within (LinkMessage.emit msg) (LinkMessage.bufferLen msg)
    rw [LinkMessage.emit_eq, LinkMessage.bufferLen_eq]
    exact LinkMessage.format.within_emit
  | newAddress msg | delAddress msg | getAddress msg => exact AddressMessage.format.within_emit
  | newNeighbour msg | getNeighbour msg | delNeighbour msg =>
    exact NeighbourMessage.format.within_emit
  | newNeighbourTable msg | getNeighbourTable msg | setNeighbourTable msg =>
    exact NeighbourTableMessage.format.within_emit
  | newRoute msg | delRoute msg | getRoute msg => exact msg.within_emit
  | newPrefix msg => exact PrefixMessage.format.within_emit
  | newTrafficAction msg | delTrafficAction msg | getTrafficAction msg =>
    exact TcActionMessage.format.within_emit
  | newMdb msg | delMdb msg | getMdb msg => exact MdbMessage.format.within_emit
  | newTunnel msg | delTunnel msg | getTunnel msg => exact msg.within_emit
  | newNexthop msg | delNexthop msg | getNexthop msg => exact NexthopMessage.format.within_emit
  | newNsId msg | delNsId msg | getNsId msg => exact NsidMessage.format.within_emit
  | newRule msg | delRule msg | getRule msg => exact RuleMessage.format.within_emit
  | _ msg => exact TcMessage.format.within_emit

/-- **In a longer buffer** a message whose attributes fit their length fields
is written if it can be, to the first bytes as to a buffer of its length, and
what is behind these stays. -/
theorem serialize_longer (hs : m.inFamily sized) (hle : m.bufferLen ≤ buf.length) :
    m.serialize.run buf =
      (· ++ buf.drop m.bufferLen) <$> m.serialize.run (buf.take m.bufferLen) ∧
      ((∃ out, m.serialize.run buf = .ok out) ↔ m.inFamily writable) := by
  have hrun := m.within_serialize.run_eq hle
  refine ⟨hrun, ?_⟩
  rw [← (endsIf_serialize hs).ok_iff (List.length_take_of_le hle), hrun]
  simp only [Outcome.map_eq_ok]
  constructor
  · rintro ⟨out, first, hfirst, -⟩
    exact ⟨first, hfirst⟩
  · rintro ⟨first, hfirst⟩
    exact ⟨_, first, hfirst, rfl⟩

end RouteNetlinkMessage

end

/-! ## On a little-endian host -/

section Writes

attribute [local instance] Reference.little

namespace RouteNetlinkMessage

/-- A virtual pair is written when its other end asks for two things, and
not when what it asks for has no sum. -/
theorem pairWith_serialize :
    (∃ out, (newLink (LinkMessage.pairWith [.extMask [.vf, .mst]])).serialize.run (zeros 64) =
      .ok out) ∧
    (newLink (LinkMessage.pairWith [.extMask [.vf, .other 4294967295]])).serialize.run (zeros 64) =
      .panic := by
  have hs : ∀ a ∈ (LinkMessage.pairWith [.extMask [.vf, .mst]]).attributes,
      a.valueLen ≤ 65531 := by decide
  have hs' : ∀ a ∈ (LinkMessage.pairWith [.extMask [.vf, .other 4294967295]]).attributes,
      a.valueLen ≤ 65531 := by decide
  constructor
  · refine (serialize_returns_iff (m := newLink (.pairWith [.extMask [.vf, .mst]])) hs
      (by decide)).1.2 fun hu => ?_
    cases hu with
    | extMask h => simp [LinkMessage.pairWith] at h
    | physPortId h => simp [LinkMessage.pairWith] at h
    | physSwitchId h => simp [LinkMessage.pairWith] at h
    | peer h hp hq =>
      simp [LinkMessage.pairWith] at h
      simp [h] at hp
      subst hp
      cases hq with
      | extMask h hv =>
        simp at h
        subst h
        exact hv (by decide)
      | physPortId h => simp at h
      | physSwitchId h => simp at h
      | peer h => simp at h
  · have hq : LinkMessage.Unwritable
        ⟨⟨.unspec, 0, .netrom, 0, 0⟩, [.extMask [.vf, .other 4294967295]]⟩ :=
      .extMask (List.mem_singleton_self _) (by decide)
    refine (serialize_returns_iff (m := newLink (.pairWith [.extMask [.vf, .other 4294967295]]))
      hs' (by decide)).2.2 fun hn => hn ?_
    exact .peer (List.mem_singleton_self _) (by simp) hq

/-- What was received of a discipline goes into a buffer that is full of
other bytes. -/
theorem htb_serialize : ∃ out, (newQueueDiscipline TcMessage.htb).serialize.run
    (List.replicate 52 255) = .ok out := by
  have hs : ∀ a ∈ TcMessage.htb.attributes, a.valueLen ≤ 65531 := by decide
  exact serialize_of_deserialize (t := RTM_NEWQDISC) (b := TcMessage.htbBytes) rfl hs (by decide)

/-- A route in a buffer with room for four bytes more, which stay. -/
theorem single_longer : ∃ out, (newRoute (.single (.nhid 7))).serialize.run
    (List.replicate 24 255) = .ok (out ++ [255, 255, 255, 255]) := by
  have hle : (newRoute (.single (.nhid 7))).bufferLen ≤
      (List.replicate 24 (255 : UInt8)).length := by decide
  have hs : ∀ a ∈ (RouteMessage.single (.nhid 7)).attributes, a.valueLen ≤ 65531 := by decide
  obtain ⟨hrun, hiff⟩ := serialize_longer (m := newRoute (.single (.nhid 7))) hs hle
  obtain ⟨out, hout⟩ := hiff.2 trivial
  rw [hrun, Outcome.map_eq_ok] at hout
  obtain ⟨first, hfirst, -⟩ := hout
  exact ⟨first, by rw [hrun, hfirst]; rfl⟩

end RouteNetlinkMessage

end Writes

end NetlinkRoute
