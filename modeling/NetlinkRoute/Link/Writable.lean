import NetlinkRoute.Common.Ends
import NetlinkRoute.Link.ExtMask
import NetlinkRoute.Link.Message
/-!
# Links — what can be written

The emitters of links end, but for two values. The mask of what is asked
for is a sum of flags, and the sum of a list that names a flag twice, or a
number beside it, can need more than its 32 bits. A physical id says how
many of its 32 bytes are used, and can say more than there are. A message
with one of these, or with a peer that has one, is not written
(`LinkMessage.endsIf_emit`).
-/

namespace NetlinkRoute

open PacketUtils Emitter

section

variable [PacketUtils]

/-! ## Values that can always be written -/

omit [PacketUtils] in
/-- An attribute left unnamed is copied into its own length. -/
theorem UnnamedNla.ends (a : UnnamedNla) : Ends a.nla.emitValue a.nla.valueLen :=
  DefaultNla.ends_emitValue

/-- A counter of a function fits the length it announces. -/
theorem VfStats.ends (a : VfStats) : Ends a.emitValue a.valueLen := by
  cases a <;> simp [emitValue, valueLen]

/-- So does a VLAN entry. -/
theorem VfVlan.ends (a : VfVlan) : Ends a.emitValue a.valueLen := by
  cases a <;> simp [emitValue, valueLen]

/-- An attribute of a function is written where its payload can be framed. -/
theorem VfInfo.ends (a : VfInfo) (hs : Frames a.valueLen) :
    Ends a.emitValue a.valueLen := by
  cases a with
  | vlanList v => exact ends_emitNlas hs fun a _ _ => a.ends
  | stats v => exact ends_emitNlas hs fun a _ _ => a.ends
  | _ => simp [emitValue, valueLen]

/-- A function is written where its container can be framed. -/
theorem LinkVfInfo.ends (a : LinkVfInfo) (hs : Frames a.nla.valueLen) :
    Ends a.nla.emitValue a.nla.valueLen :=
  ends_emitNlas hs fun a _ ha => a.ends ha

/-- So is a port. -/
theorem LinkVfPort.ends (a : LinkVfPort) (hs : Frames a.nla.valueLen) :
    Ends a.nla.emitValue a.nla.valueLen :=
  ends_emitNlas hs fun a _ _ => a.ends

omit [PacketUtils] in
theorem LinkProp.ends (a : LinkProp) : Ends a.emitValue a.valueLen := by
  cases a <;> simp [emitValue, valueLen]

theorem LinkProtocolDownReason.ends (a : LinkProtocolDownReason) :
    Ends a.emitValue a.valueLen := by
  cases a <;> simp [emitValue, valueLen]

/-- An XDP attribute fits the length it announces. -/
theorem LinkXdp.ends (a : LinkXdp) : Ends a.emitValue a.valueLen := by
  cases a <;> simp [emitValue, valueLen]

theorem BridgeQuerierState.ends (a : BridgeQuerierState) : Ends a.emitValue a.valueLen := by
  cases a <;> simp [emitValue, valueLen]

/-- An attribute of a bridge is written where its payload can be framed: it
may hold a nested list. -/
theorem InfoBridge.ends (a : InfoBridge) (hs : Frames a.valueLen) :
    Ends a.emitValue a.valueLen := by
  cases a with
  | multicastQuerierState v => exact ends_emitNlas hs fun a _ _ => a.ends
  | rootId v | bridgeId v => exact StructCodec.ends_emit
  | _ => simp [emitValue, valueLen]

/-- An attribute of a bridge port holds no list. -/
theorem InfoBridgePort.ends (a : InfoBridgePort) : Ends a.emitValue a.valueLen := by
  cases a with
  | rootId v | bridgeId v => exact StructCodec.ends_emit
  | _ => simp [emitValue, valueLen]

theorem VlanQosMapping.ends (a : VlanQosMapping) : Ends a.emitValue a.valueLen := by
  cases a <;> simp [emitValue, valueLen]

/-- An attribute of a VLAN link may hold a list of mappings. -/
theorem InfoVlan.ends (a : InfoVlan) (hs : Frames a.valueLen) :
    Ends a.emitValue a.valueLen := by
  cases a with
  | egressQos v => exact ends_emitNlas hs fun a _ _ => a.ends
  | ingressQos v => exact ends_emitNlas hs fun a _ _ => a.ends
  | _ => simp [emitValue, valueLen]

/-- An attribute of a VXLAN link holds no list. -/
theorem InfoVxlan.ends (a : InfoVxlan) : Ends a.emitValue a.valueLen := by
  cases a <;> simp [emitValue, valueLen]

omit [PacketUtils] in
/-- A target is copied into the length of its version. -/
theorem BondIpAddrNla.ends (a : BondIpAddrNla) : Ends a.nla.emitValue a.nla.valueLen := by
  obtain ⟨index, addr⟩ := a
  cases addr <;> simp [nla, valueLen, IpAddr.octets]

theorem BondAdInfo.ends (a : BondAdInfo) : Ends a.emitValue a.valueLen := by
  cases a <;> simp [emitValue, valueLen]

/-- An attribute of a bond may hold a list of targets. -/
theorem InfoBond.ends (a : InfoBond) (hs : Frames a.valueLen) :
    Ends a.emitValue a.valueLen := by
  cases a with
  | arpIpTarget v => exact ends_emitNlas hs fun a _ _ => a.ends
  | nsIp6Target v => exact ends_emitNlas hs fun a _ _ => a.ends
  | adInfo v => exact ends_emitNlas hs fun a _ _ => a.ends
  | _ => simp [emitValue, valueLen]

/-- An attribute of a bond port holds no list. -/
theorem InfoBondPort.ends (a : InfoBondPort) : Ends a.emitValue a.valueLen := by
  cases a <;> simp [emitValue, valueLen]

mutual

/-- An attribute of a MAC VLAN may hold attributes of its own kind, so the
descent follows the type. -/
theorem InfoMacVlan.ends : (a : InfoMacVlan) → Frames a.valueLen → Ends a.emitValue a.valueLen
  | .macAddrData l => fun hs => by
    rw [InfoMacVlan.valueLen, InfoMacVlan.bufferLenSum_eq] at hs
    have h := ends_emitNlas (t := InfoMacVlan.nla) hs (InfoMacVlan.ends_all l)
    rwa [InfoMacVlan.emitValue, InfoMacVlan.valueLen, InfoMacVlan.nlas_eq,
      InfoMacVlan.bufferLenSum_eq]
  | .mode _ | .flags _ | .macAddrMode _ | .macAddr _ | .macAddrCount _ | .bcQueueLen _
  | .bcQueueLenUsed _ | .bcCutoff _ | .other _ => by
    simp [InfoMacVlan.emitValue, InfoMacVlan.valueLen]

theorem InfoMacVlan.ends_all :
    (l : List InfoMacVlan) → ∀ a ∈ l, Frames a.valueLen → Ends a.emitValue a.valueLen
  | [] => by simp
  | a :: as => List.forall_mem_cons.2 ⟨a.ends, InfoMacVlan.ends_all as⟩

end

/-- The remaining kinds hold numbers, addresses and text. -/
theorem InfoMacSec.ends (a : InfoMacSec) : Ends a.emitValue a.valueLen := by
  cases a <;> simp [emitValue, valueLen]

theorem InfoHsr.ends (a : InfoHsr) : Ends a.emitValue a.valueLen := by
  cases a <;> simp [emitValue, valueLen]

theorem InfoIpVlan.ends (a : InfoIpVlan) : Ends a.emitValue a.valueLen := by
  cases a <;> simp [emitValue, valueLen]

theorem InfoIpoib.ends (a : InfoIpoib) : Ends a.emitValue a.valueLen := by
  cases a <;> simp [emitValue, valueLen]

theorem InfoVrf.ends (a : InfoVrf) : Ends a.emitValue a.valueLen := by
  cases a <;> simp [emitValue, valueLen]

theorem InfoXfrm.ends (a : InfoXfrm) : Ends a.emitValue a.valueLen := by
  cases a <;> simp [emitValue, valueLen]

/-- Port data is written where its payload can be framed. -/
theorem InfoPortData.ends (a : InfoPortData) (hs : Frames a.valueLen) :
    Ends a.emitValue a.valueLen := by
  cases a with
  | bondPort l => exact ends_emitNlas hs fun a _ _ => a.ends
  | bridgePort l => exact ends_emitNlas hs fun a _ _ => a.ends
  | vrfPort l => exact ends_emitNlas hs fun a _ _ => a.ends
  | other v => simp [emitValue, valueLen]

/-- The attributes of a specification fit the lengths they announce. -/
theorem AfSpecBridge.ends (a : AfSpecBridge) : Ends a.emitValue a.valueLen := by
  cases a <;> simp [emitValue, valueLen, BridgeVlanInfo.bytes]

theorem AfSpecInet.ends (a : AfSpecInet) : Ends a.emitValue a.valueLen := by
  cases a <;> simp [emitValue, valueLen]

theorem AfSpecInet6.ends (a : AfSpecInet6) : Ends a.emitValue a.valueLen := by
  cases a <;> simp [emitValue, valueLen]

/-- A specification without a family is written where its payload can be
framed. -/
theorem AfSpecUnspec.ends (a : AfSpecUnspec) (hs : Frames a.valueLen) :
    Ends a.emitValue a.valueLen := by
  cases a with
  | inet l => exact ends_emitNlas hs fun a _ _ => a.ends
  | inet6 l => exact ends_emitNlas hs fun a _ _ => a.ends
  | other v => simp [emitValue, valueLen]

/-! ## The two that cannot -/

namespace LinkExtentMask

variable {v : List LinkExtentMask} {d : UInt32}

omit [PacketUtils] in
/-- Adding up flags overflows or gives a word. -/
theorem toMask_cases : (∃ r, toMask v d = .ok r) ∨ toMask v d = .panic := by
  induction v generalizing d with
  | nil => exact .inl ⟨d, rfl⟩
  | cons flag v ih =>
    by_cases hlt : d.toNat + (codec.toNum flag).toNat < 4294967296
    · rw [toMask, addU32, if_pos hlt, Outcome.ok_bind]
      exact ih
    · rw [toMask, addU32, if_neg hlt]
      exact .inr rfl

/-- The flags have a sum of 32 bits. -/
def Summable (v : List LinkExtentMask) : Prop := ((words v).map UInt32.toNat).sum < 4294967296

instance : Decidable (Summable v) := inferInstanceAs (Decidable (_ < _))

omit [PacketUtils] in
/-- It gives a word exactly where the sum fits one. -/
theorem exists_toMask_iff : (∃ r, toMask v 0 = .ok r) ↔ Summable v := by
  simp only [toMask_eq_ok_iff, UInt32.toNat_zero, Nat.zero_add]
  constructor
  · rintro ⟨r, hr⟩
    have hlt := r.toNat_lt
    rwa [hr] at hlt
  · intro h
    exact ⟨UInt32.ofNat _, UInt32.toNat_ofNat_of_lt' h⟩

/-- A mask is written exactly where its flags add up. -/
theorem endsIf_emitValue :
    EndsIf (LinkAttribute.emitValue (.extMask v)) (LinkAttribute.valueLen (.extMask v))
      (Summable v) := by
  refine (endsIf_after toMask_cases fun d _ => ?_).congr exists_toMask_iff
  simp [LinkAttribute.valueLen]

end LinkExtentMask

namespace LinkPhysId

omit [PacketUtils] in
/-- An identifier is written exactly where it uses no more than its 32
octets. -/
theorem endsIf_emit (v : LinkPhysId) : EndsIf v.emit v.bufferLen (v.len ≤ 32) := by
  have hid : v.id.val.length = 32 := v.id.property
  have hslice : v.len ≤ 32 → slice v.id.val 0 v.len = .ok (v.id.val.take v.len) := fun hle => by
    rw [slice_ok (Nat.zero_le _) (by omega), List.drop_zero, Nat.sub_zero]
  have hcases : (∃ c, slice v.id.val 0 v.len = .ok c) ↔ v.len ≤ 32 := by
    refine ⟨fun ⟨c, hc⟩ => ?_, fun hle => ⟨_, hslice hle⟩⟩
    by_contra hlt
    rw [slice_panic (by omega)] at hc
    cases hc
  refine (endsIf_after ?_ fun c hc => ?_).congr hcases
  · rcases Nat.lt_or_ge 32 v.len with hlt | hle
    · exact .inr (slice_panic (by omega))
    · exact .inl ⟨_, hslice hle⟩
  · have hle := hcases.1 ⟨c, hc⟩
    rw [hslice hle, Outcome.ok.injEq] at hc
    rw [ends_put_iff, ← hc, List.length_take, bufferLen]
    omega

end LinkPhysId

/-! ## Messages -/

namespace LinkMessage

/-- There is a mask without a sum in the message, or a physical id that is
longer than its place, or a peer that has one of these. -/
inductive Unwritable : LinkMessage → Prop
  | extMask {m : LinkMessage} {v : List LinkExtentMask} (h : .extMask v ∈ m.attributes)
      (hv : ¬ LinkExtentMask.Summable v) : Unwritable m
  | physPortId {m : LinkMessage} {v : LinkPhysId} (h : .physPortId v ∈ m.attributes)
      (hv : 32 < v.len) : Unwritable m
  | physSwitchId {m : LinkMessage} {v : LinkPhysId} (h : .physSwitchId v ∈ m.attributes)
      (hv : 32 < v.len) : Unwritable m
  | peer {m q : LinkMessage} {l : List LinkInfo} (h : .linkInfo l ∈ m.attributes)
      (hp : .data (.veth (.peer q)) ∈ l) (hq : Unwritable q) : Unwritable m

/-- A peer in the list can be written. -/
def PeersWritable (l : List LinkInfo) : Prop :=
  ∀ q, .data (.veth (.peer q)) ∈ l → ¬ Unwritable q

end LinkMessage

/-- What this takes of an attribute. -/
def LinkAttribute.Writable : LinkAttribute → Prop
  | .extMask v => LinkExtentMask.Summable v
  | .physPortId v | .physSwitchId v => v.len ≤ 32
  | .linkInfo l => LinkMessage.PeersWritable l
  | _ => True

namespace LinkMessage

variable {m : LinkMessage}

omit [PacketUtils] in
/-- A message is writable where each of its attributes is. -/
theorem not_unwritable_iff : ¬ Unwritable m ↔ ∀ a ∈ m.attributes, a.Writable := by
  constructor
  · intro h a ha
    cases a with
    | extMask v => exact by_contra fun hv => h (.extMask ha hv)
    | physPortId v => exact Nat.not_lt.1 fun hv => h (.physPortId ha hv)
    | physSwitchId v => exact Nat.not_lt.1 fun hv => h (.physSwitchId ha hv)
    | linkInfo l => exact fun q hq hu => h (.peer ha hq hu)
    | _ => trivial
  · intro h hu
    cases hu with
    | extMask ha hv => exact hv (h _ ha)
    | physPortId ha hv => exact Nat.not_le.2 hv (h _ ha)
    | physSwitchId ha hv => exact Nat.not_le.2 hv (h _ ha)
    | peer ha hp hq => exact h _ ha _ hp hq

end LinkMessage

/-- The data of a kind are written when the peer in them is. -/
theorem InfoData.endsIf_emitValue (d : InfoData) (hs : Frames d.valueLen)
    (h : ∀ q, d = .veth (.peer q) →
      EndsIf (LinkMessage.emit q) (LinkMessage.bufferLen q) (¬ LinkMessage.Unwritable q)) :
    EndsIf d.emitValue d.valueLen (∀ q, d = .veth (.peer q) → ¬ LinkMessage.Unwritable q) := by
  cases d with
  | veth v =>
    have hsv : Frames v.nla.valueLen := frames_of_bufferLen hs
    cases v with
    | peer q =>
      refine EndsIf.congr (EndsIf.emitNla (n := InfoVeth.nla (.peer q)) hsv (h q rfl)) ?_
      exact ⟨fun hq q' heq => by cases heq; exact hq, fun hq => hq q rfl⟩
    | other v =>
      refine EndsIf.congr (EndsIf.emitNla (n := InfoVeth.nla (.other v)) hsv
        (DefaultNla.ends_emitValue.endsIf trivial)) ?_
      exact iff_of_true trivial fun q heq => by cases heq
  | other v => exact Ends.endsIf (by simp [emitValue, valueLen]) (by simp)
  | bridge l | vlan l | bond l | macVlan l | macVtap l =>
    exact Ends.endsIf (ends_emitNlas hs fun a _ ha => a.ends ha) (by simp)
  | _ l => exact Ends.endsIf (ends_emitNlas hs fun a _ _ => a.ends) (by simp)

/-- Link info is written exactly where the peer in it is. -/
theorem LinkInfo.endsIf_emitValue (i : LinkInfo) (hs : Frames i.valueLen)
    (h : ∀ q, i = .data (.veth (.peer q)) →
      EndsIf (LinkMessage.emit q) (LinkMessage.bufferLen q) (¬ LinkMessage.Unwritable q)) :
    EndsIf i.emitValue i.valueLen
      (∀ q, i = .data (.veth (.peer q)) → ¬ LinkMessage.Unwritable q) := by
  cases i with
  | data d =>
    refine (d.endsIf_emitValue hs fun q hq => h q (hq ▸ rfl)).congr ?_
    simp
  | infoKind k => exact ends_emitStringNul.endsIf (by simp)
  | portKind k => exact ends_emitStringNul.endsIf (by simp)
  | portData v => exact (v.ends hs).endsIf (by simp)
  | _ => exact Ends.endsIf (by simp [emitValue, valueLen]) (by simp)

/-- A list of `IFLA_LINKINFO` is written when the peers in it are. -/
theorem LinkInfo.endsIf_emitNlas (l : List LinkInfo) (hs : Frames (nlasLen (l.map LinkInfo.nla)))
    (h : ∀ q, .data (.veth (.peer q)) ∈ l →
      EndsIf (LinkMessage.emit q) (LinkMessage.bufferLen q) (¬ LinkMessage.Unwritable q)) :
    EndsIf (emitNlas (l.map LinkInfo.nla)) (nlasLen (l.map LinkInfo.nla))
      (LinkMessage.PeersWritable l) := by
  have hall : ∀ i ∈ l, Frames i.valueLen := fun i hi => frames_of_mem (t := LinkInfo.nla) hs hi
  refine (NetlinkRoute.endsIf_emitNlas (t := LinkInfo.nla) hall fun i hi =>
    i.endsIf_emitValue (hall i hi) fun q hq => h q (hq ▸ hi)).congr ?_
  exact ⟨fun hall q hq => hall _ hq q rfl, fun hall i hi q hq => hall q (hq ▸ hi)⟩

/-- An attribute is written exactly where it is writable, given its peers. -/
theorem LinkAttribute.endsIf_emitValue (a : LinkAttribute) (hs : Frames a.valueLen)
    (h : ∀ l, a = .linkInfo l → ∀ q, .data (.veth (.peer q)) ∈ l →
      EndsIf (LinkMessage.emit q) (LinkMessage.bufferLen q) (¬ LinkMessage.Unwritable q)) :
    EndsIf a.emitValue a.valueLen a.Writable := by
  cases a with
  | extMask v => exact LinkExtentMask.endsIf_emitValue
  | physPortId v => exact v.endsIf_emit
  | physSwitchId v => exact v.endsIf_emit
  | linkInfo l =>
    rw [valueLen, LinkInfo.bufferLenSum_eq] at hs
    have hl := LinkInfo.endsIf_emitNlas l hs (h l rfl)
    rwa [emitValue, valueLen, LinkInfo.nlas_eq, LinkInfo.bufferLenSum_eq]
  | portSelf v =>
    have hsv : Frames v.nla.valueLen := frames_of_bufferLen hs
    exact ((v.ends hsv).endsIf trivial).emitNla hsv
  | vfInfoList l | vfPorts l | afSpecUnspec l =>
    exact Ends.endsIf (ends_emitNlas hs fun a _ ha => a.ends ha) trivial
  | protoInfoBridge l | protoInfoInet6 l | protoDownReason l | xdp l | propList l
  | afSpecBridge l =>
    exact Ends.endsIf (ends_emitNlas hs fun a _ _ => a.ends) trivial
  | _ => exact Ends.endsIf (by simp [emitValue, valueLen]) trivial

/-- **A link message is written exactly when neither it nor a peer inside
it has a mask without a sum or an id that is too long.** -/
theorem LinkMessage.endsIf_emit (m : LinkMessage) (hs : ∀ a ∈ m.attributes, Frames a.valueLen) :
    EndsIf (emit m) (bufferLen m) (¬ Unwritable m) := by
  -- by induction on the length: peers are shorter
  induction hn : bufferLen m using Nat.strongRecOn generalizing m with
  | _ n ih =>
    subst hn
    rw [emit_eq, bufferLen_eq]
    refine (format.endsIf_emit hs fun a ha => a.endsIf_emitValue (hs a ha) ?_).congr
      not_unwritable_iff.symm
    rintro l rfl q hq
    have hlt := nlasLen_linkInfo_lt ha
    have hlt' := bufferLen_peer_lt hq
    have hsl : Frames (nlasLen (l.map LinkInfo.nla)) := by
      rw [← LinkInfo.bufferLenSum_eq]
      exact hs _ ha
    exact ih _ (by omega) q (frames_attributes (frames_mono hlt'.le hsl)) rfl

end

end NetlinkRoute
