import NetlinkRoute.Message.Ports
import NetlinkRoute.Message.Relay
/-!
# Messages of all families — hop by hop

What any number of hops makes of a message that was received, under every
message type: each own port of a link is nested once more at every hop, the
TLVs of local actions are gone after the first, options of traffic control
that are kept as one attribute are put into another at every hop, and
nothing else is changed (`RouteNetlinkMessage.hops_relay_eq`).
-/

namespace NetlinkRoute

open PacketUtils Emitter

section

variable [PacketUtils]

namespace RouteNetlinkMessage

variable {m : RouteNetlinkMessage} {b out : Bytes} {t : UInt16} {n : ℕ}

/-- What one hop makes of the messages of each family. -/
def arrivals : Changes where
  link := LinkMessage.arrived
  address := id
  neighbour := id
  neighbourTable := id
  route := RouteMessage.written
  prefixes := id
  tc := TcMessage.received
  tcAction := id
  mdb := id
  tunnel := id
  nexthop := id
  nsid := id
  rule := id

/-- What arrives of a message. -/
def arrived (m : RouteNetlinkMessage) : RouteNetlinkMessage := m.change arrivals

/-! ## One hop -/

/-- The inner message passes through its family's codec, and arrives as
that changes it. -/
def passes : Families Prop where
  link msg := ∃ out, Fills (LinkMessage.emit msg) (LinkMessage.bufferLen msg) out ∧
    LinkMessage.decode out = .ok (LinkMessage.arrived msg)
  address := AddressMessage.format.ComesBack
  neighbour := NeighbourMessage.format.ComesBack
  neighbourTable := NeighbourTableMessage.format.ComesBack
  route msg := ∃ out, Fills msg.emit msg.bufferLen out ∧ RouteMessage.decode out = .ok msg.written
  prefixes := PrefixMessage.format.ComesBack
  tc msg := ∃ out, Fills (TcMessage.emit msg) (TcMessage.bufferLen msg) out ∧
    TcMessage.decode out = .ok msg.received
  tcAction := TcActionMessage.ComesBack
  mdb := MdbMessage.format.ComesBack
  tunnel msg := ∃ out, Fills msg.emit msg.bufferLen out ∧ TunnelMessage.decode out = .ok msg
  nexthop := NexthopMessage.format.ComesBack
  nsid := NsidMessage.format.ComesBack
  rule := RuleMessage.ComesBack

/-- A message passes where it can be written and arrives as its arrival. -/
theorem inFamily_passes_iff : m.inFamily passes ↔
    ∃ out, Fills m.serialize m.bufferLen out ∧ m.inFamily ((decodedFrom out).comp arrivals) := by
  cases m <;> exact Iff.rfl

/-- A message that passes arrives under its own type. -/
theorem relay_of_passes (hprop : ¬ m.IsLinkProp) (h : m.inFamily passes) :
    relay m = .ok m.arrived := by
  obtain ⟨out, hout, hdec⟩ := inFamily_passes_iff.1 h
  rw [← inFamily_change] at hdec
  have hread := parseWithParam_of_decodedFrom (mt (isLinkProp_change m).1 hprop) hdec
  rw [messageType_change] at hread
  exact passOn_eq_ok_iff.2 ⟨out, hout, hread⟩

/-- Family by family: what was decoded, and fits, passes. -/
theorem passes_of_decodedFrom : ((decodedFrom b).map₂ And sized).Implies passes where
  link _ h := passOn_eq_ok_iff.1 (LinkMessage.hop_eq_arrived h.1 h.2)
  address _ h := AddressMessage.decode_stable h.1 h.2
  neighbour _ h := NeighbourMessage.decode_stable h.1 h.2
  neighbourTable _ h := NeighbourTableMessage.decode_stable h.1 h.2
  route _ h := passOn_eq_ok_iff.1 (RouteMessage.hop_eq_written h.1 h.2)
  prefixes _ h := PrefixMessage.decode_stable h.1 h.2
  tc _ h := passOn_eq_ok_iff.1 (TcMessage.hop_eq_received (TcMessage.decode_fits h.1) h.2)
  tcAction _ h := TcActionMessage.comesBack_of_wellFormed (TcActionMessage.wellFormed_of_decode h.1)
    h.2
  mdb _ h := MdbMessage.decode_stable h.1 h.2
  tunnel _ h := TunnelMessage.decode_stable h.1
  nexthop _ h := NexthopMessage.decode_stable h.1 h.2
  nsid _ h := NsidMessage.decode_stable h.1 h.2
  rule _ h := RuleMessage.decode_stable h.1 h.2

/-- A request has nothing in it that is changed. -/
theorem passes_of_requestOf (h : m.RequestOf b) : m.inFamily passes := by
  obtain ⟨hcomes, hlasts⟩ := comesBack_of_requestOf h
  cases m with
  | getLink msg =>
    obtain ⟨out, hout, hdec⟩ := hcomes
    have hself := LinkMessage.arrived_eq_iff.2 (LinkMessage.ownPorts_eq_zero_iff.2 hlasts)
    exact ⟨out, hout, hself.symm ▸ hdec⟩
  | getAddress msg => exact hcomes
  | getRoute msg =>
    obtain ⟨out, hout, hdec⟩ := hcomes
    have hself := RouteMessage.written_eq_iff.2 hlasts
    exact ⟨out, hout, hself.symm ▸ hdec⟩
  | _ msg => exact h.elim

/-- **One hop**: what was received, and fits, arrives. -/
theorem relay_eq_arrived (h : deserialize t b = .ok m) (hs : m.inFamily sized) :
    relay m = .ok m.arrived := by
  obtain ⟨hprop, hm | hm⟩ := holds_parseWithParam m h
  · have hboth : m.inFamily ((decodedFrom b).map₂ And sized) := by
      rw [inFamily_map₂]
      exact ⟨hm, hs⟩
    exact relay_of_passes hprop (inFamily_mono passes_of_decodedFrom m hboth)
  · exact relay_of_passes hprop (passes_of_requestOf hm)

/-! ## How much longer -/

/-- How many headers a hop adds. -/
def growth : Families ℕ where
  link := LinkMessage.ownPorts
  address _ := 0
  neighbour _ := 0
  neighbourTable _ := 0
  route _ := 0
  prefixes _ := 0
  tc := TcMessage.keptOptions
  tcAction _ := 0
  mdb _ := 0
  tunnel _ := 0
  nexthop _ := 0
  nsid _ := 0
  rule _ := 0

/-- An arrival is longer by four bytes for every attribute that grows. -/
theorem bufferLen_arrived (m : RouteNetlinkMessage) :
    m.arrived.bufferLen = m.bufferLen + 4 * m.inFamily growth := by
  cases m with
  | newLink msg | delLink msg | getLink msg | setLink msg | newLinkProp msg | delLinkProp msg =>
    exact LinkMessage.bufferLen_arrived_and.1 msg
  | newRoute msg | delRoute msg | getRoute msg => exact msg.bufferLen_written
  | newQueueDiscipline msg | delQueueDiscipline msg | getQueueDiscipline msg
  | newTrafficClass msg | delTrafficClass msg | getTrafficClass msg | newTrafficFilter msg
  | delTrafficFilter msg | getTrafficFilter msg | newTrafficChain msg | delTrafficChain msg
  | getTrafficChain msg => exact TcMessage.bufferLen_received
  | _ msg => rfl

/-- It grows by as much again on the next hop. -/
theorem growth_arrived (m : RouteNetlinkMessage) :
    m.arrived.inFamily growth = m.inFamily growth := by
  cases m with
  | newLink msg | delLink msg | getLink msg | setLink msg | newLinkProp msg | delLinkProp msg =>
    exact LinkMessage.ownPorts_arrived_and.1 msg
  | newQueueDiscipline msg | delQueueDiscipline msg | getQueueDiscipline msg
  | newTrafficClass msg | delTrafficClass msg | getTrafficClass msg | newTrafficFilter msg
  | delTrafficFilter msg | getTrafficFilter msg | newTrafficChain msg | delTrafficChain msg
  | getTrafficChain msg => exact TcMessage.keptOptions_received
  | _ msg => rfl

/-! ## Hop by hop -/

/-- Every attribute fits its length field, over so many hops. -/
def room (n : ℕ) : Families Prop :=
  { sized with
    link := LinkMessage.Room n
    tc := fun msg => ∀ a ∈ msg.attributes, a.valueLen + 4 * n ≤ 65531 }

/-- Room for some hops is room for the message itself. -/
theorem sized_of_room : (room n).Implies sized where
  link _ h := h.sized
  address _ h := h
  neighbour _ h := h
  neighbourTable _ h := h
  route _ h := h
  prefixes _ h := h
  tc _ h a ha := (Nat.le_add_right _ _).trans (h a ha)
  tcAction _ h := h
  mdb _ h := h
  tunnel _ h := h
  nexthop _ h := h
  nsid _ h := h
  rule _ h := h

/-- One hop takes one hop of the room. -/
theorem room_arrived : (room (n + 1)).Implies ((room n).comp arrivals) where
  link _ h := h.arrived
  address _ h := h
  neighbour _ h := h
  neighbourTable _ h := h
  route _ h := RouteMessage.sized_written_iff.2 h
  prefixes _ h := h
  tc _ h := TcMessage.room_received h
  tcAction _ h := h
  mdb _ h := h
  tunnel _ h := h
  nexthop _ h := h
  nsid _ h := h
  rule _ h := h

/-- **Hop by hop**: over `n` hops, what was received arrives as it is with
the changes of its family made `n` times, and is longer by `n` headers for
each own port and each of the options that are kept as one attribute. -/
theorem hops_relay_eq (n : ℕ) (h : deserialize t b = .ok m) (hs : m.inFamily (room n)) :
    hops relay n m = .ok (arrived^[n] m) ∧
      (arrived^[n] m).bufferLen = m.bufferLen + 4 * n * m.inFamily growth := by
  induction n generalizing t b m with
  | zero => simp [hops]
  | succ n ih =>
    have hfirst := relay_eq_arrived h (inFamily_mono sized_of_room m hs)
    obtain ⟨out, -, hread⟩ := passOn_eq_ok_iff.1 hfirst
    have hroom : m.arrived.inFamily (room n) := by
      rw [arrived, inFamily_change]
      exact inFamily_mono room_arrived m hs
    obtain ⟨hhops, hlen⟩ := ih hread hroom
    rw [bufferLen_arrived, growth_arrived] at hlen
    rw [hops, hfirst, Outcome.ok_bind, Function.iterate_succ_apply]
    refine ⟨hhops, hlen.trans ?_⟩
    rw [Nat.mul_succ, Nat.add_mul]
    omega

end RouteNetlinkMessage

end

/-! ## On a little-endian host -/

section Pairs

attribute [local instance] Reference.little

namespace RouteNetlinkMessage

/-- A virtual pair, whose other end has an own port: over a hundred hops it
grows by a header at each. -/
theorem pairWith_hops_relay : ∃ m, hops relay 100 (newLink (.pairWith [.portSelf ⟨[]⟩])) = .ok m ∧
    m.bufferLen = (newLink (.pairWith [.portSelf ⟨[]⟩])).bufferLen + 400 := by
  have hread : deserialize RTM_NEWLINK (zeros 16 ++
      [44, 0, 18, 0, 9, 0, 1, 0, 118, 101, 116, 104] ++ zeros 4 ++
      [28, 0, 2, 0, 24, 0, 1, 0] ++ zeros 16 ++ [4, 0, 25, 0]) =
        .ok (newLink (.pairWith [.portSelf ⟨[]⟩])) := rfl
  have hroom : (newLink (.pairWith [.portSelf ⟨[]⟩])).inFamily (room 100) :=
    List.forall_mem_singleton.2 (by decide)
  obtain ⟨hhops, hlen⟩ := hops_relay_eq 100 hread hroom
  exact ⟨_, hhops, hlen⟩

end RouteNetlinkMessage

end Pairs

end NetlinkRoute
