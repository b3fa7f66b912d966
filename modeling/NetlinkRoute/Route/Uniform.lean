import NetlinkRoute.Route.RoundTrip
/-!
# Route — the bytes that are written

Every route attribute fills the payload it reserves, next hops and their
attributes included, with one exception: the padding among the counters
of a local segment routing action is reserved and left alone
(`RouteAttribute.uniform_emitValue_iff`).
-/

namespace NetlinkRoute

open PacketUtils Emitter

variable [PacketUtils]

/-- Every byte of the attribute's own payload is written. -/
def RouteAttribute.Clean : RouteAttribute → Prop
  | .encap l => ∀ e ∈ l, e.Clean
  | _ => True

/-- A next hop writes its fixed part; the rest is its attributes. -/
theorem RouteNextHop.uniform_emit_iff {nh : RouteNextHop}
    (hs : ∀ a ∈ nh.attributes, Frames a.valueLen) :
    Uniform nh.emit nh.bufferLen ↔
      ∀ a ∈ nh.attributes, Uniform a.emitValue a.valueLen := by
  have hcover := nh.covers_layout.uniform_andThen_onTail
    (n := nh.bufferLen) (m := nlasLen (nh.attributes.map RouteAttribute.nla))
    (e := emitNlas (nh.attributes.map RouteAttribute.nla)) (by
      rw [nh.length_layout, nh.bufferLen_eq])
  rw [nh.length_layout] at hcover
  rw [nh.emit_eq, hcover, uniform_emitNlas_iff (List.forall_mem_map.2 hs), List.forall_mem_map]
  rfl

/-- A library that writes payloads of the size of a multi-path attribute
writes the attributes of its next hops. -/
theorem RouteNextHop.frames_of_mem {nhs : List RouteNextHop} {nh : RouteNextHop}
    {a : RouteAttribute} (hs : Frames (RouteAttribute.multiPath nhs).valueLen) (hnh : nh ∈ nhs)
    (ha : a ∈ nh.attributes) : Frames a.valueLen := by
  rw [RouteAttribute.valueLen, RouteNextHop.bufferLenSum_eq] at hs
  have hle := valueLen_add_le_of_mem (t := RouteAttribute.nla) ha
  have hsum : nh.bufferLen ≤ (nhs.map RouteNextHop.bufferLen).sum :=
    List.le_sum_of_mem (List.mem_map_of_mem hnh)
  rw [nh.bufferLen_eq] at hsum
  refine frames_mono ?_ hs
  show a.nla.valueLen ≤ _
  omega

/-- **An attribute is written uniformly exactly when no padding is
reserved in it**, at any nesting. -/
theorem RouteAttribute.uniform_emitValue_iff {a : RouteAttribute} (hs : Frames a.valueLen) :
    Uniform a.emitValue a.valueLen ↔ a.Everywhere Clean := by
  induction a using RouteAttribute.ind with
  | multi nhs ih =>
    -- next hops are written in turn, and the attributes of each behind its header
    have hturn := @uniform_inTurn_iff (RouteNextHop.items nhs)
    have hlen : itemsLen (RouteNextHop.items nhs) = RouteNextHop.bufferLenSum nhs := by
      rw [RouteNextHop.items_eq, RouteNextHop.bufferLenSum_eq, itemsLen, List.map_map]
      rfl
    rw [hlen, RouteNextHop.items_eq, List.forall_mem_map] at hturn
    have hin : ∀ nh ∈ nhs, ∀ a ∈ nh.attributes, Frames a.valueLen :=
      fun _ hnh _ ha => RouteNextHop.frames_of_mem hs hnh ha
    rw [emitValue, valueLen, RouteNextHop.items_eq, hturn, everywhere_multiPath_iff]
    constructor
    · intro h
      exact ⟨trivial, fun nh hnh a ha => (ih nh hnh a ha (hin nh hnh a ha)).1
        ((RouteNextHop.uniform_emit_iff (hin nh hnh)).1 (h nh hnh) a ha)⟩
    · rintro ⟨-, h⟩ nh hnh
      exact (RouteNextHop.uniform_emit_iff (hin nh hnh)).2 fun a ha =>
        (ih nh hnh a ha (hin nh hnh a ha)).2 (h nh hnh a ha)
  | flat a hflat =>
    rw [everywhere_flat_iff hflat]
    cases a with
    | multiPath nhs => exact absurd rfl (hflat nhs)
    | encap l =>
      rw [emitValue, valueLen, uniform_emitNlas_map_iff hs]
      exact forall₂_congr fun e he =>
        RouteLwTunnelEncap.uniform_emitValue_iff (NetlinkRoute.frames_of_mem hs he)
    | metrics l =>
      rw [emitValue, valueLen, uniform_emitNlas_map_iff hs]
      exact iff_of_true (fun m _ => m.uniform_emitValue) trivial
    | destination v | source v | gateway v | prefSource v =>
      exact iff_of_true RouteAddress.writes_emit.uniform trivial
    | via v => exact iff_of_true RouteVia.writes_emit.uniform trivial
    | newDestination labels => exact iff_of_true VecMplsLabel.writes_emit.uniform trivial
    | realm v => exact iff_of_true RouteRealm.writes_emit.uniform trivial
    | encapType v => exact iff_of_true (writes_copy (length_u16 _ _)).uniform trivial
    | _ v => simp [emitValue, valueLen, Clean]

end NetlinkRoute
