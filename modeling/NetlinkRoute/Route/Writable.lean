import NetlinkRoute.Common.Ends
import NetlinkRoute.Route.Message
/-!
# Route — what can be written

Everything in a route message can be written: each attribute ends in the
room that it reserves, the attributes of its next hops included
(`RouteAttribute.ends`), and so does the message (`RouteMessage.ends`).
-/

namespace NetlinkRoute

open PacketUtils Emitter

variable [PacketUtils]

/-! ## Encapsulation -/

/-- A counter fits the length it announces. -/
theorem Seg6LocalCounters.ends (a : Seg6LocalCounters) : Ends a.emitValue a.valueLen := by
  cases a <;> simp [emitValue, valueLen]

/-- A local segment is written where its nested lists can be framed. -/
theorem RouteSeg6LocalIpTunnel.ends (a : RouteSeg6LocalIpTunnel) (hs : Frames a.valueLen) :
    Ends a.emitValue a.valueLen := by
  cases a with
  | srh v => exact Ipv6SrHdr.writes_emit.uniform.ends
  | counters l => exact ends_emitNlas hs fun a _ _ => a.ends
  | flavors l => exact ends_emitNlas hs fun a _ _ => a.uniform_emitValue.ends
  | _ => simp [emitValue, valueLen]

/-- So is an encapsulation of any type. -/
theorem RouteLwTunnelEncap.ends (a : RouteLwTunnelEncap) (hs : Frames a.valueLen) :
    Ends a.emitValue a.valueLen := by
  cases a with
  | mpls v => exact v.uniform_emitValue.ends
  | seg6 v => exact v.uniform_emitValue.ends
  | seg6Local v => exact v.ends hs
  | other v => exact DefaultNla.ends_emitValue

/-! ## Next hops -/

/-- A next hop ends when its attributes do. -/
theorem RouteNextHop.ends_of (nh : RouteNextHop) (hs : ∀ a ∈ nh.attributes, Frames a.valueLen)
    (h : ∀ a ∈ nh.attributes, Ends a.emitValue a.valueLen) : Ends nh.emit nh.bufferLen := by
  have htail : Ends (emitNlas (nh.attributes.map RouteAttribute.nla))
      (nlasLen (nh.attributes.map RouteAttribute.nla)) :=
    (endsIf_emitNlas hs fun a ha => (h a ha).endsIf trivial).ends fun _ _ => trivial
  rw [nh.emit_eq, nh.bufferLen_eq]
  refine Ends.andThen_onTail (nh.covers_layout.ends ?_) htail rfl
  rw [nh.length_layout]
  exact Nat.le_add_right _ _

/-- **An attribute of a route can be written**, at any nesting. -/
theorem RouteAttribute.ends (a : RouteAttribute) (hs : Frames a.valueLen) :
    Ends a.emitValue a.valueLen := by
  induction a using RouteAttribute.ind with
  | multi nhs ih =>
    have hin : ∀ nh ∈ nhs, ∀ a ∈ nh.attributes, Frames a.valueLen :=
      fun _ hnh _ ha => RouteNextHop.frames_of_mem hs hnh ha
    rw [emitValue, valueLen, RouteNextHop.items_eq, RouteNextHop.bufferLenSum_eq]
    exact ends_inTurn_map fun nh hnh => nh.ends_of (hin nh hnh) fun a ha =>
      ih nh hnh a ha (hin nh hnh a ha)
  | flat a hflat =>
    cases a with
    | multiPath nhs => exact absurd rfl (hflat nhs)
    | encap l => exact ends_emitNlas hs fun a _ ha => a.ends ha
    | metrics l => exact ends_emitNlas hs fun a _ _ => a.uniform_emitValue.ends
    | destination v | source v | gateway v | prefSource v =>
      exact RouteAddress.writes_emit.uniform.ends
    | via v => exact RouteVia.writes_emit.uniform.ends
    | newDestination labels => exact VecMplsLabel.writes_emit.uniform.ends
    | realm v => exact RouteRealm.writes_emit.uniform.ends
    | encapType v => simp [emitValue, valueLen, RouteLwEnCapType.emit]
    | _ v => simp [emitValue, valueLen]

/-- **A route can be written.** -/
theorem RouteMessage.ends (m : RouteMessage) (hs : m.Sized) : Ends m.emit m.bufferLen := by
  have hall : ∀ a ∈ m.attributes, Frames a.valueLen := fun a ha => frames_of_le (hs a ha)
  have htail : Ends (emitNlas (m.attributes.map RouteAttribute.nla))
      (nlasLen (m.attributes.map RouteAttribute.nla)) :=
    (endsIf_emitNlas hall fun a ha => (a.ends (hall a ha)).endsIf trivial).ends fun _ _ => trivial
  refine Ends.andThen_onTail (RouteHeader.covers_emit.ends ?_) htail rfl
  rw [RouteHeader.length_layout]
  exact Nat.le_add_right _ _

end NetlinkRoute
