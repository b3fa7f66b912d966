import NetlinkRoute.Neighbour.Model
import NetlinkRoute.Common.Reference
/-!
# Neighbour — messages, written and read back

Two variants share the kind `NDA_DST`. A decoded message is always
consistent (`consistent_of_decode`): for a bridge every such attribute is
a tunnel endpoint, and for any other family a destination of the family's
form. So a canonical message comes back from its own bytes when it is
consistent, and no inconsistent one does (`decode_emit_dst`).
-/

namespace NetlinkRoute

open PacketUtils Emitter

/-! ## Addresses -/

namespace NeighbourAddress

variable {family : AddressFamily} {a : NeighbourAddress} {payload : Bytes}

/-- The address is of the variant that the family selects. -/
def OfFamily (family : AddressFamily) : NeighbourAddress → Prop
  | .inet _ => family = .inet
  | .inet6 _ => family = .inet6
  | .other _ => family ≠ .inet ∧ family ≠ .inet6

/-- The address is of the variant that its length selects. -/
def OfLength : NeighbourAddress → Prop
  | .other v => v.length ≠ 4 ∧ v.length ≠ 16
  | _ => True

/-- The bytes of an address. -/
def bytes : NeighbourAddress → Bytes
  | .inet v => v.val
  | .inet6 v => v.val
  | .other v => v

/-- An address is written as its octets. -/
theorem writes_emit : Writes a.emit a.bufferLen a.bytes := by
  cases a with
  | inet v => exact writes_copy v.property
  | inet6 v => exact writes_copy v.property
  | other v => exact writes_copy rfl

/-- An address of the family comes back under the family. -/
theorem parseWithParam_bytes (h : a.OfFamily family) : parseWithParam family a.bytes = .ok a := by
  cases a with
  | inet v =>
    obtain rfl : family = .inet := h
    simp [parseWithParam, bytes]
  | inet6 v =>
    obtain rfl : family = .inet6 := h
    simp [parseWithParam, bytes]
  | other v =>
    obtain ⟨h4, h6⟩ := h
    unfold parseWithParam
    split <;> first | contradiction | rfl

/-- The address read is one of the family. -/
theorem holds_parseWithParam : (parseWithParam family payload).Holds (OfFamily family) := by
  unfold parseWithParam
  split
  · simp [OfFamily]
  · simp [OfFamily]
  · next h4 h6 => exact (Outcome.holds_ok _).2 ⟨h4, h6⟩

@[simp] theorem parseWithParam_ne_panic : parseWithParam family payload ≠ .panic := by
  unfold parseWithParam
  split <;> simp

end NeighbourAddress

namespace RouteProtocol

variable {v : RouteProtocol} {payload : Bytes}

/-- A canonical protocol is read back from its byte. -/
theorem parse_toNum (h : RouteProtocol.codec.Canonical v) :
    parse [RouteProtocol.codec.toNum v] = .ok v := by
  simp [parse, index, h.ofNum_toNum]

theorem holds_parse : (parse payload).Holds RouteProtocol.codec.Canonical := by
  unfold parse
  split <;> simp

@[simp] theorem parse_ne_panic : parse payload ≠ .panic := by
  unfold parse
  split
  · next h => rw [index_of_lt (by omega)]; simp
  · simp

end RouteProtocol

/-! ## What the family selects -/

namespace FdbExtAttr

/-- The kinds its parser names. -/
def kinds : List UInt16 := [NFEA_ACTIVITY_NOTIFY, NFEA_DONT_REFRESH]

/-- The values that come back from their own bytes. -/
def WellFormed : FdbExtAttr → Prop
  | .other n => n.Unknown kinds
  | _ => True

end FdbExtAttr

namespace NeighbourAttribute

variable {family : AddressFamily} {payload : Bytes}

/-- The kinds its parser names. -/
def kinds : List UInt16 :=
  [NDA_DST, NDA_LLADDR, NDA_CACHEINFO, NDA_PROBES, NDA_VLAN, NDA_PORT, NDA_VNI, NDA_IFINDEX,
    NDA_CONTROLLER, NDA_LINK_NETNSID, NDA_SRC_VNI, NDA_PROTOCOL, NDA_NH_ID, NDA_FDB_EXT_ATTRS]

/-- The enumerations hold the values that their numbers decode to, and
what is kept as unknown is unknown. -/
def Canonical : NeighbourAttribute → Prop
  | .protocol v => RouteProtocol.codec.Canonical v
  | .fdbExtAttrs l => ∀ a ∈ l, a.WellFormed
  | .other n => n.Unknown kinds
  | _ => True

/-- **The family decides what `NDA_DST` is.** -/
def Consistent (family : AddressFamily) : NeighbourAttribute → Prop
  | .tunnelEndpoint addr => family = .bridge ∧ addr.OfLength
  | .destination addr => family ≠ .bridge ∧ addr.OfFamily family
  | _ => True

/-- Under a bridge, the destination is a tunnel endpoint told apart by its
length. -/
theorem parseDestination_endpoint {addr : NeighbourAddress} (h : addr.OfLength) :
    parseDestination .bridge addr.bytes = .ok (.tunnelEndpoint addr) := by
  cases addr with
  | inet v => simp [parseDestination, NeighbourAddress.bytes, v.property]
  | inet6 v => simp [parseDestination, NeighbourAddress.bytes, v.property]
  | other v => simp [parseDestination, NeighbourAddress.bytes, h.1, h.2]

/-- Under any other family it is an address of the family. -/
theorem parseDestination_destination {addr : NeighbourAddress} (hne : family ≠ .bridge)
    (h : addr.OfFamily family) : parseDestination family addr.bytes = .ok (.destination addr) := by
  simp [parseDestination, hne, NeighbourAddress.parseWithParam_bytes h]

/-- Either is canonical and agrees with the family. -/
theorem holds_parseDestination : (parseDestination family payload).Holds
    fun a => a.Canonical ∧ a.Consistent family := by
  unfold parseDestination
  split
  · split_ifs <;> simp [Canonical, Consistent, NeighbourAddress.OfLength, *]
  · next hb =>
    have hp := @NeighbourAddress.holds_parseWithParam family payload
    simpa [Canonical, Consistent, hb] using hp

@[simp] theorem parseDestination_ne_panic : parseDestination family payload ≠ .panic := by
  unfold parseDestination
  split_ifs <;> simp

end NeighbourAttribute

section

variable [PacketUtils]

/-! ## Attributes of a forwarding entry -/

namespace FdbExtAttr

variable {a : FdbExtAttr} {nb : NlaBuffer}

/-- A well-formed extended attribute comes back. -/
theorem roundTrips (h : a.WellFormed) : RoundTrips parse a.nla a := by
  cases a with
  | activityNotify v => exact writes_u8.roundTrips_arm NFEA_ACTIVITY_NOTIFY rfl rfl (by simp)
  | dontRefresh => exact writes_skip.roundTrips_arm NFEA_DONT_REFRESH rfl rfl rfl
  | other n => exact .of_default h

/-- Its parser gives well-formed ones only. -/
theorem holds_parse (hv : NlaValid nb.buffer) : (parse nb).Holds WellFormed := by
  rw [parse, hv.carries.bind]
  refine holds_select ?_ fun hk => ?_
  · simp [WellFormed]
  · rw [hv.carries.defaultNla]
    exact (Outcome.holds_ok _).2 hk

theorem parse_ne_panic (hv : NlaValid nb.buffer) : parse nb ≠ .panic := by
  rw [parse, hv.carries.bind]
  refine select_ne_panic ?_ ?_
  · simp
  · simp [hv.carries.defaultNla]

end FdbExtAttr

/-! ## Attributes of a neighbour -/

namespace NeighbourAttribute

variable {family : AddressFamily} {a : NeighbourAttribute} {nb : NlaBuffer}

/-- A canonical attribute that agrees with the family comes back under it. -/
theorem roundTrips (hw : a.Canonical) (hcon : a.Consistent family) (hlen : a.valueLen ≤ 65531) :
    RoundTrips (parseWithParam family) a.nla a := by
  cases a with
  | destination addr =>
    exact NeighbourAddress.writes_emit.roundTrips_arm NDA_DST rfl rfl
      (parseDestination_destination hcon.1 hcon.2)
  | tunnelEndpoint addr =>
    obtain ⟨rfl, hform⟩ := hcon
    exact NeighbourAddress.writes_emit.roundTrips_arm NDA_DST rfl rfl
      (parseDestination_endpoint hform)
  | linkLocalAddress bytes => exact writes_bytes.roundTrips_arm NDA_LLADDR rfl rfl rfl
  | cacheInfo v =>
    exact NeighbourCacheInfo.codec.writes_emit.roundTrips_arm NDA_CACHEINFO rfl rfl
      (by simp [parseChecked_bytes])
  | vlan v => exact writes_u16.roundTrips_arm NDA_VLAN rfl rfl (by simp)
  | port v => exact writes_u16Be.roundTrips_arm NDA_PORT rfl rfl (by simp)
  | protocol v =>
    exact (writes_put rfl).roundTrips_arm NDA_PROTOCOL rfl rfl
      (by simp [RouteProtocol.parse_toNum hw])
  | fdbExtAttrs l =>
    obtain ⟨out, hout, hread⟩ := exists_readsAs (r := id) (t := FdbExtAttr.nla)
      (fun a ha _ => FdbExtAttr.roundTrips (hw a ha)) hlen
    exact .of_arm hout (NDA_FDB_EXT_ATTRS ||| NLA_F_NESTED) rfl rfl (by simp [hread.parseNlas_eq])
  | probes v => exact writes_u32.roundTrips_arm NDA_PROBES rfl rfl (by simp)
  | vni v => exact writes_u32.roundTrips_arm NDA_VNI rfl rfl (by simp)
  | ifIndex v => exact writes_u32.roundTrips_arm NDA_IFINDEX rfl rfl (by simp)
  | controller v => exact writes_u32.roundTrips_arm NDA_CONTROLLER rfl rfl (by simp)
  | linkNetNsId v => exact writes_u32.roundTrips_arm NDA_LINK_NETNSID rfl rfl (by simp)
  | sourceVni v => exact writes_u32.roundTrips_arm NDA_SRC_VNI rfl rfl (by simp)
  | nhId v => exact writes_u32.roundTrips_arm NDA_NH_ID rfl rfl (by simp)
  | other n => exact .of_default hw

/-- What is decoded is canonical and consistent. -/
theorem holds_parseWithParam (hv : NlaValid nb.buffer) :
    (parseWithParam family nb).Holds fun a => a.Canonical ∧ a.Consistent family := by
  rw [parseWithParam, hv.carries.bind]
  refine holds_select ?_ fun hk => ?_
  · have hfdb : ∀ e e', (parseNlas e e' FdbExtAttr.parse (nlaValue nb.buffer)).Holds
        fun l => ∀ a ∈ l, a.WellFormed := fun _ _ =>
      holds_parseNlas fun nb' hnb' => FdbExtAttr.holds_parse (valid_of_mem_nlas hnb')
    have hproto := @RouteProtocol.holds_parse (nlaValue nb.buffer)
    have hdst := @holds_parseDestination family (nlaValue nb.buffer)
    simpa [Canonical, Consistent, hfdb, hproto] using hdst
  · rw [hv.carries.defaultNla]
    exact (Outcome.holds_ok _).2 ⟨hk, trivial⟩

/-- The parser of attributes checks every length and does not panic. -/
theorem parseWithParam_ne_panic (hv : NlaValid nb.buffer) : parseWithParam family nb ≠ .panic := by
  rw [parseWithParam, hv.carries.bind]
  refine select_ne_panic ?_ ?_
  · have hfdb : ∀ e e', parseNlas e e' FdbExtAttr.parse (nlaValue nb.buffer) ≠ .panic := fun _ _ =>
      parseNlas_ne_panic fun nb' hnb' => FdbExtAttr.parse_ne_panic (valid_of_mem_nlas hnb')
    simp [hfdb]
  · simp [hv.carries.defaultNla]

end NeighbourAttribute

/-! ## Messages -/

namespace NeighbourMessage

variable {m : NeighbourMessage} {b : Bytes}

/-- The enumerations hold the values that their numbers decode to, and
what is kept as unknown is unknown. -/
def Canonical (m : NeighbourMessage) : Prop :=
  m.header.WellFormed ∧ ∀ a ∈ m.attributes, a.Canonical

/-- Every `NDA_DST` is what the header's family makes of it. -/
def Consistent (m : NeighbourMessage) : Prop :=
  ∀ a ∈ m.attributes, a.Consistent m.header.family

/-- A decoded message agrees with the family of its header. -/
theorem consistent_of_decode (h : format.decode b = .ok m) : Consistent m := by
  intro a ha
  obtain ⟨nb, hv, hp⟩ := format.exists_of_mem_decode rfl h ha
  exact (NeighbourAttribute.holds_parseWithParam hv a hp).2

/-- **A canonical message comes back from its own bytes when it is
consistent, and no inconsistent message comes back at all.** -/
theorem decode_emit_dst (m : NeighbourMessage) :
    (Canonical m → format.Sized m → Consistent m →
      ∃ out, (format.emit m).run (zeros (format.bufferLen m)) = .ok out ∧
        format.decode out = .ok m) ∧
    (¬ Consistent m → ∀ out, (format.emit m).run (zeros (format.bufferLen m)) = .ok out →
      format.decode out ≠ .ok m) := by
  constructor
  · intro hw hs hcon
    exact format.decode_emitted_of rfl hw.1 hs fun a ha =>
      NeighbourAttribute.roundTrips (hw.2 a ha) (hcon a ha) (hs a ha)
  · intro hcon out _ h
    exact hcon (consistent_of_decode h)

/-- The decoder does not panic. -/
theorem decode_ne_panic : format.decode b ≠ .panic :=
  format.decode_ne_panic_of rfl fun _ _ hv => NeighbourAttribute.parseWithParam_ne_panic hv

/-- What was decoded is written back to the same message. -/
theorem decode_stable (h : format.decode b = .ok m) (hs : format.Sized m) :
    ∃ out, Fills (format.emit m) (format.bufferLen m) out ∧ format.decode out = .ok m := by
  refine format.decode_stable_of rfl (fun header nb a hv hp hlen => ?_) h hs
  obtain ⟨hw, hcon⟩ := NeighbourAttribute.holds_parseWithParam hv a hp
  exact NeighbourAttribute.roundTrips hw hcon hlen

/-- The padding of the header stays what it was. -/
theorem not_uniform_emit : ¬ Uniform (format.emit m) (format.bufferLen m) := by
  refine format.not_uniform_emit (i := 1) (by simp [format, NeighbourHeader.codec]) ?_
  simp [format, NeighbourHeader.codec]

end NeighbourMessage

end

/-! ## On a little-endian host -/

namespace NeighbourMessage

section Concrete

attribute [local instance] Reference.little

/-- A forwarding entry with a remote endpoint, as a bridge has it, and
the same attribute under the family of IPv4. -/
def endpoint (family : AddressFamily) : NeighbourMessage :=
  ⟨⟨family, 3, .permanent, 2, .unspec⟩, [.tunnelEndpoint (.inet ⟨[10, 0, 0, 1], rfl⟩),
    .fdbExtAttrs [.dontRefresh, .activityNotify 1]]⟩

/-- The first comes back and the second does not. -/
theorem decode_emit_endpoint :
    (∃ out, (format.emit (endpoint .bridge)).run (zeros (format.bufferLen (endpoint .bridge))) =
      .ok out ∧ format.decode out = .ok (endpoint .bridge)) ∧
    ∀ out, (format.emit (endpoint .inet)).run (zeros (format.bufferLen (endpoint .inet))) =
      .ok out → format.decode out ≠ .ok (endpoint .inet) := by
  refine ⟨(decode_emit_dst (endpoint .bridge)).1 ⟨?_, ?_⟩ ?_ ?_,
    (decode_emit_dst (endpoint .inet)).2 ?_⟩
  · decide
  · simp [endpoint, NeighbourAttribute.Canonical, FdbExtAttr.WellFormed]
  · simp [endpoint, MessageFormat.Sized, format, NeighbourAttribute.nla,
      NeighbourAttribute.valueLen, NeighbourAddress.bufferLen, FdbExtAttr.nla, FdbExtAttr.valueLen,
      IPV4_ADDR_LEN, nlasLen, Nla.bufferLen, nlaAlign]
  · simp [endpoint, Consistent, NeighbourAttribute.Consistent, NeighbourAddress.OfLength]
  · simp [endpoint, Consistent, NeighbourAttribute.Consistent]

end Concrete

end NeighbourMessage

end NetlinkRoute
