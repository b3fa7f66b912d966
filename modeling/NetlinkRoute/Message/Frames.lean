import NetlinkRoute.Common.Framed
import NetlinkRoute.Message.Sequence
import NetlinkRoute.Message.Writable
/-!
# Messages of all families — what is on the wire

Whatever a message says, and whatever stood in the buffer that it was
serialized into, what is there afterwards is the header of its family and
behind it, up to the end of the buffer, its attributes: as many, in this
order, under their kinds and with the lengths that they announce
(`framed_of_serialize`). A reader that knows nothing of the family can
walk through it without an error.
-/

namespace NetlinkRoute

open PacketUtils Emitter

section

variable [PacketUtils]

namespace RouteNetlinkMessage

variable {m : RouteNetlinkMessage} {buf out : Bytes}

/-- The kind words and the lengths of the attributes of a message. The
identifiers of tunnels stand in an attribute each. -/
def heads : Families (List (UInt16 × ℕ)) where
  link msg := msg.attributes.map fun a => a.nla.head
  address msg := msg.attributes.map fun a => a.nla.head
  neighbour msg := msg.attributes.map fun a => a.nla.head
  neighbourTable msg := msg.attributes.map fun a => a.nla.head
  route msg := msg.attributes.map fun a => a.nla.head
  prefixes msg := msg.attributes.map fun a => a.nla.head
  tc msg := msg.attributes.map fun a => a.nla.head
  tcAction msg := msg.attributes.map fun a => a.nla.head
  mdb msg := msg.attributes.map fun a => a.nla.head
  tunnel msg := msg.vnis.map fun _ => (VXLAN_VNIFILTER_ENTRY ||| NLA_F_NESTED, 8)
  nexthop msg := msg.attributes.map fun a => a.nla.head
  nsid msg := msg.attributes.map fun a => a.nla.head
  rule msg := msg.attributes.map fun a => a.nla.head

end RouteNetlinkMessage

/-- An emitted link message is framed behind its sixteen bytes of header. -/
theorem LinkMessage.framed {m : LinkMessage} {buf out : Bytes}
    (h : (emit m).run buf = .ok out) (hbuf : buf.length = bufferLen m) (hs : format.Sized m) :
    Framed 16 (m.attributes.map fun a => a.nla.head) out := by
  rw [emit_eq] at h
  rw [bufferLen_eq] at hbuf
  exact format.framed h hbuf hs

/-- So is a route message behind its twelve. -/
theorem RouteMessage.framed {m : RouteMessage} {buf out : Bytes} (h : m.emit.run buf = .ok out)
    (hbuf : buf.length = m.bufferLen) (hs : m.Sized) :
    Framed 12 (m.attributes.map fun a => a.nla.head) out := by
  have hframed := framed_of_run h hbuf (List.forall_mem_map.2 hs)
  rwa [List.map_map] at hframed

namespace TunnelMessage

variable {m : TunnelMessage} {buf out : Bytes}

/-- What a tunnel is written to: a header, and an entry for each identifier. -/
theorem exists_of_run (h : m.emit.run buf = .ok out) (hbuf : buf.length = m.bufferLen) :
    ∃ hdr : Bytes, hdr.length = 8 ∧ out = hdr ++ encodeNlas (m.vnis.map entryNla) := by
  have h8 : buf.length = 8 + m.vnis.length * ENTRY_LEN := hbuf
  obtain ⟨hdr, c, tail, rfl, hhdr, hc, htail⟩ :=
    exists_of_andThen_onTail_run h (h8 ▸ Nat.le_add_right _ _)
  have hw := writes_inTurn_map (l := m.vnis) fun vni _ => writes_entry vni
  have hsum : (m.vnis.map fun _ => ENTRY_LEN).sum = m.vnis.length * ENTRY_LEN := by simp
  have hbytes : m.vnis.flatMap (fun vni => layoutBytes (entryLayout vni)) =
      encodeNlas (m.vnis.map entryNla) := by
    simp only [layoutBytes_entryLayout, encodeNlas, List.flatMap_map, entryNla]
  rw [hsum, hbytes] at hw
  obtain rfl := Outcome.ok.inj ((hw.run_eq c (by omega)).symm.trans htail)
  exact ⟨hdr, hhdr, rfl⟩

/-- The entries of a tunnel are attributes, each with one more inside. -/
theorem framed (h : m.emit.run buf = .ok out) (hbuf : buf.length = m.bufferLen) :
    Framed 8 (m.vnis.map fun _ => (VXLAN_VNIFILTER_ENTRY ||| NLA_F_NESTED, 8)) out := by
  obtain ⟨hdr, hhdr, rfl⟩ := exists_of_run h hbuf
  have hheads : (m.vnis.map entryNla).map headOf =
      m.vnis.map fun _ => (VXLAN_VNIFILTER_ENTRY ||| NLA_F_NESTED, 8) := by
    rw [List.map_map]
    refine List.map_congr_left fun vni _ => ?_
    have hlen : (innerNla vni).length = 8 := by rw [length_encodeNla, length_u32]; rfl
    rw [Function.comp, entryNla, headOf, hlen]
  have hframed : Framed hdr.length _ (hdr ++ encodeNlas (m.vnis.map entryNla)) :=
    framed_append hheads (List.forall_mem_map.2 fun _ _ => by decide)
  rwa [hhdr] at hframed

end TunnelMessage

namespace RouteNetlinkMessage

variable {m : RouteNetlinkMessage} {buf out : Bytes}

/-- **What is on the wire is a header and the attributes that the message
has**, in their order. -/
theorem framed_of_serialize (hs : m.inFamily sized) (hbuf : buf.length = m.bufferLen)
    (h : m.serialize.run buf = .ok out) : Framed m.headerLen (m.inFamily heads) out := by
  cases m with
  | newLink msg | delLink msg | getLink msg | setLink msg | newLinkProp msg | delLinkProp msg =>
    exact LinkMessage.framed h hbuf hs
  | newAddress msg | delAddress msg | getAddress msg => exact AddressMessage.format.framed h hbuf hs
  | newNeighbour msg | getNeighbour msg | delNeighbour msg =>
    exact NeighbourMessage.format.framed h hbuf hs
  | newNeighbourTable msg | getNeighbourTable msg | setNeighbourTable msg =>
    exact NeighbourTableMessage.format.framed h hbuf hs
  | newRoute msg | delRoute msg | getRoute msg => exact RouteMessage.framed h hbuf hs
  | newPrefix msg => exact PrefixMessage.format.framed h hbuf hs
  | newTrafficAction msg | delTrafficAction msg | getTrafficAction msg =>
    exact TcActionMessage.format.framed h hbuf hs
  | newMdb msg | delMdb msg | getMdb msg => exact MdbMessage.format.framed h hbuf hs
  | newTunnel msg | delTunnel msg | getTunnel msg => exact TunnelMessage.framed h hbuf
  | newNexthop msg | delNexthop msg | getNexthop msg => exact NexthopMessage.format.framed h hbuf hs
  | newNsId msg | delNsId msg | getNsId msg => exact NsidMessage.format.framed h hbuf hs
  | newRule msg | delRule msg | getRule msg => exact RuleMessage.format.framed h hbuf hs
  | _ msg => exact TcMessage.format.framed h hbuf hs

end RouteNetlinkMessage

end

/-! ## On a little-endian host -/

section Bytes

attribute [local instance] Reference.little

namespace RouteNetlinkMessage

/-- A route with the id of a next hop object, which would not be read back
as it was, is framed nevertheless. -/
theorem single_framed : ∃ out, (newRoute (.single (.nhid 7))).serialize.run
    (List.replicate 20 255) = .ok out ∧ Framed 12 [(RTA_NH_ID, 4)] out := by
  have hs : ∀ a ∈ (RouteMessage.single (.nhid 7)).attributes, a.valueLen ≤ 65531 := by decide
  have hrun : (newRoute (.single (.nhid 7))).serialize.run (List.replicate 20 255) =
      .ok ((RouteMessage.single (.nhid 7)).header.layout.flatMap Prod.snd ++
        [8, 0, 30, 0, 7, 0, 0, 0]) := rfl
  exact ⟨_, hrun, framed_of_serialize (m := newRoute (.single (.nhid 7))) hs rfl hrun⟩

end RouteNetlinkMessage

end Bytes

end NetlinkRoute
