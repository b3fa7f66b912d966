import NetlinkRoute.Common.Reference
import NetlinkRoute.Link.Leaves
/-!
# Link — when the decoders of virtual functions panic

Each list is wrapped in an unchecked buffer only to hand its bytes on,
and each turn of its loop asks that buffer for the payload of the
attribute it would be, to have the text of an error ready: a list that is
not empty and does not start with an attribute panics. The structures of
a function are read unchecked as well, and panic exactly when they end
before their last field (`VfInfo.sizes`). Nothing else panics
(`LinkVfInfo.parseVec_returns_iff`).
-/

namespace NetlinkRoute

open PacketUtils Emitter

section

variable [PacketUtils] {payload : Bytes} {nb : NlaBuffer}

/-! ## Structures -/

/-- Each struct of a function is read through an unchecked buffer of its own
size; below it the parser panics. -/
theorem VfInfoMac.parse_eq_panic_iff :
    VfInfoMac.codec.parse payload = .panic ↔ payload.length < 36 := by
  refine VfInfoMac.codec.parse_eq_panic_iff_of_short fun h => ?_
  refine Outcome.bind_eq_panic_of _ _ getU32_ne_err fun _ => ?_
  rw [getOctets_of_lt h, Outcome.panic_bind]

omit [PacketUtils] in
/-- A broadcast address has no function number, only its 32 bytes. -/
theorem VfInfoBroadcast.parse_eq_panic_iff :
    VfInfoBroadcast.codec.parse payload = .panic ↔ payload.length < 32 := by
  refine VfInfoBroadcast.codec.parse_eq_panic_iff_of_short fun h => ?_
  have h32 : getOctets payload 0 32 = .panic := getOctets_of_lt h
  exact (Outcome.bind_eq_panic _ _).2 (.inl h32)

theorem VfInfoVlan.parse_eq_panic_iff :
    VfInfoVlan.codec.parse payload = .panic ↔ payload.length < 12 := by
  refine VfInfoVlan.codec.parse_eq_panic_iff_of_short fun h => ?_
  refine Outcome.bind_eq_panic_of _ _ getU32_ne_err fun _ => ?_
  refine Outcome.bind_eq_panic_of _ _ getU32_ne_err fun _ => ?_
  rw [getU32_of_lt h, Outcome.panic_bind]

theorem VfInfoRate.parse_eq_panic_iff :
    VfInfoRate.codec.parse payload = .panic ↔ payload.length < 12 := by
  refine VfInfoRate.codec.parse_eq_panic_iff_of_short fun h => ?_
  refine Outcome.bind_eq_panic_of _ _ getU32_ne_err fun _ => ?_
  refine Outcome.bind_eq_panic_of _ _ getU32_ne_err fun _ => ?_
  rw [getU32_of_lt h, Outcome.panic_bind]

theorem VfInfoTxRate.parse_eq_panic_iff :
    VfInfoTxRate.codec.parse payload = .panic ↔ payload.length < 8 := by
  refine VfInfoTxRate.codec.parse_eq_panic_iff_of_short fun h => ?_
  refine Outcome.bind_eq_panic_of _ _ getU32_ne_err fun _ => ?_
  rw [getU32_of_lt h, Outcome.panic_bind]

theorem VfInfoGuid.parse_eq_panic_iff :
    VfInfoGuid.codec.parse payload = .panic ↔ payload.length < 12 := by
  refine VfInfoGuid.codec.parse_eq_panic_iff_of_short fun h => ?_
  refine Outcome.bind_eq_panic_of _ _ getU32_ne_err fun _ => ?_
  rw [getU64_of_lt h, Outcome.panic_bind]

theorem VfInfoLinkState.parse_eq_panic_iff :
    VfInfoLinkState.codec.parse payload = .panic ↔ payload.length < 8 := by
  refine VfInfoLinkState.codec.parse_eq_panic_iff_of_short fun h => ?_
  refine Outcome.bind_eq_panic_of _ _ getU32_ne_err fun _ => ?_
  rw [getU32_of_lt h, Outcome.panic_bind]

/-- The settings of one word share this struct. -/
theorem VfInfoSetting.parse_eq_panic_iff :
    VfInfoSetting.codec.parse payload = .panic ↔ payload.length < 8 := by
  refine VfInfoSetting.codec.parse_eq_panic_iff_of_short fun h => ?_
  refine Outcome.bind_eq_panic_of _ _ getU32_ne_err fun _ => ?_
  rw [getU32_of_lt h, Outcome.panic_bind]

/-- The padding is not looked at. -/
theorem VfVlanInfo.parse_eq_panic_iff :
    VfVlanInfo.codec.parse payload = .panic ↔ payload.length < 14 := by
  constructor
  · intro h
    by_contra hlen
    have : 14 ≤ payload.length := by omega
    simp (disch := omega) [VfVlanInfo.codec, getU32_of_le, getU16Be_of_le] at h
  · intro h
    refine Outcome.bind_eq_panic_of _ _ getU32_ne_err fun _ => ?_
    refine Outcome.bind_eq_panic_of _ _ getU32_ne_err fun _ => ?_
    refine Outcome.bind_eq_panic_of _ _ getU32_ne_err fun _ => ?_
    rw [getU16Be_of_lt h, Outcome.panic_bind]

/-! ## One function -/

/-- A counter is read through the checked number parser. -/
theorem VfStats.parse_ne_panic (hv : NlaValid nb.buffer) : VfStats.parse nb ≠ .panic :=
  hv.parse_ne_panic (by simp)

/-- A VLAN entry panics below fourteen bytes. -/
theorem VfVlan.parse_eq_panic_iff (hv : NlaValid nb.buffer) : VfVlan.parse nb = .panic ↔
    wireKind nb = IFLA_VF_VLAN_INFO ∧ (nlaValue nb.buffer).length < 14 := by
  refine (hv.parse_eq_panic_iff (by simp)).trans ?_
  simp [VfVlanInfo.parse_eq_panic_iff]

namespace VfInfo

omit [PacketUtils] in
/-- The structures that are read unchecked, and how many bytes of each. -/
def sizes : List (UInt16 × ℕ) := [
  (IFLA_VF_MAC, 36), (IFLA_VF_VLAN, 12), (IFLA_VF_BROADCAST, 32), (IFLA_VF_RATE, 12),
  (IFLA_VF_TX_RATE, 8), (IFLA_VF_SPOOFCHK, 8), (IFLA_VF_LINK_STATE, 8), (IFLA_VF_RSS_QUERY_EN, 8),
  (IFLA_VF_TRUST, 8), (IFLA_VF_IB_NODE_GUID, 12), (IFLA_VF_IB_PORT_GUID, 12)]

/-- **What is wrong with an attribute of a function that the decoder
panics on.** -/
inductive Defect (nb : NlaBuffer) : Prop
  /-- A structure that ends before its last field. -/
  | short {size : ℕ} (hk : (wireKind nb, size) ∈ sizes)
      (h : (nlaValue nb.buffer).length < size) : Defect nb
  /-- A VLAN that ends before its protocol does. -/
  | vlan {nb' : NlaBuffer} (hk : wireKind nb = IFLA_VF_VLAN_LIST)
      (hr : NlaReached VfVlan.parse (nlaValue nb.buffer) nb')
      (hk' : wireKind nb' = IFLA_VF_VLAN_INFO) (h : (nlaValue nb'.buffer).length < 14) : Defect nb

/-- An attribute of a function panics exactly at a defect. -/
theorem parse_eq_panic_iff (hv : NlaValid nb.buffer) : parse nb = .panic ↔ Defect nb := by
  have hstats : ∀ err, parseEachWith err VfStats.parse (nlaValue nb.buffer) ≠ .panic :=
    fun _ => parseEachWith_ne_panic fun _ => VfStats.parse_ne_panic
  have hvlans : ∀ err, parseEachWith err VfVlan.parse (nlaValue nb.buffer) = .panic ↔
      ∃ nb', NlaReached VfVlan.parse (nlaValue nb.buffer) nb' ∧
        wireKind nb' = IFLA_VF_VLAN_INFO ∧ (nlaValue nb'.buffer).length < 14 := by
    intro err
    rw [parseEachWith_eq_panic_iff]
    refine exists_congr fun nb' => and_congr_right fun hr => ?_
    exact VfVlan.parse_eq_panic_iff (valid_of_mem_nlas hr.mem)
  -- every arm checks a size of its own, but for the two that hold lists
  have harms : parse nb = .panic ↔ (∃ size, (wireKind nb, size) ∈ sizes ∧
      (nlaValue nb.buffer).length < size) ∨ wireKind nb = IFLA_VF_VLAN_LIST ∧
      ∃ nb', NlaReached VfVlan.parse (nlaValue nb.buffer) nb' ∧
        wireKind nb' = IFLA_VF_VLAN_INFO ∧ (nlaValue nb'.buffer).length < 14 := by
    refine (hv.parse_eq_panic_iff (by simp only [List.map]; decide)).trans ?_
    simp only [List.exists_mem_cons_iff]
    simp [sizes, hstats, hvlans, VfInfoMac.parse_eq_panic_iff, VfInfoBroadcast.parse_eq_panic_iff,
      VfInfoVlan.parse_eq_panic_iff, VfInfoRate.parse_eq_panic_iff,
      VfInfoTxRate.parse_eq_panic_iff, VfInfoGuid.parse_eq_panic_iff,
      VfInfoLinkState.parse_eq_panic_iff, VfInfoSetting.parse_eq_panic_iff, or_and_right,
      exists_or, or_assoc]
  rw [harms]
  constructor
  · rintro (⟨size, hk, h⟩ | ⟨hk, nb', hr, hk', h⟩)
    · exact .short hk h
    · exact .vlan hk hr hk' h
  · rintro (⟨hk, h⟩ | ⟨hk, hr, hk', h⟩)
    · exact .inl ⟨_, hk, h⟩
    · exact .inr ⟨hk, _, hr, hk', h⟩

end VfInfo

/-! ## Lists of functions -/

namespace LinkVfInfo

/-- **What is wrong with a function that the decoder panics on.** -/
inductive Defect (payload : Bytes) : Prop
  /-- The list is not empty and does not start with an attribute. -/
  | wrapper (hne : payload ≠ []) (h : ¬ NlaValid payload) : Defect payload
  /-- An attribute of the function. -/
  | info {nb : NlaBuffer} (hr : NlaReached VfInfo.parse payload nb) (h : VfInfo.Defect nb) :
      Defect payload

/-- A container panics exactly at a defect inside it. -/
theorem parse_eq_panic_iff : parse ⟨payload⟩ = .panic ↔ Defect payload := by
  rw [parse, Outcome.map_eq_panic, parseEachEager_eq_panic_iff]
  constructor
  · rintro (⟨hne, h⟩ | ⟨nb, hr, hp⟩)
    · exact .wrapper hne h
    · exact .info hr ((VfInfo.parse_eq_panic_iff (valid_of_mem_nlas hr.mem)).1 hp)
  · rintro (⟨hne, h⟩ | ⟨hr, h⟩)
    · exact .inl ⟨hne, h⟩
    · exact .inr ⟨_, hr, (VfInfo.parse_eq_panic_iff (valid_of_mem_nlas hr.mem)).2 h⟩

/-- The turn of `VecLinkVfInfo::parse` for one attribute. -/
def turn (nla : NlaBuffer) : Outcome (List LinkVfInfo) := do
  if (← PacketUtils.kind nla) = IFLA_VF_INFO then return [← parse ⟨← value nla⟩]
  else return []

/-- A turn of the list panics on a container with a defect. -/
theorem turn_eq_panic_iff (hv : NlaValid nb.buffer) :
    turn nb = .panic ↔ wireKind nb = IFLA_VF_INFO ∧ Defect (nlaValue nb.buffer) := by
  rw [turn, hv.carries.kind, Outcome.ok_bind]
  split
  · next hk =>
    simp only [hv.carries.value, Outcome.ok_bind, Outcome.bind_eq_panic, parse_eq_panic_iff]
    simp [hk]
  · next hk => simp [hk]

/-- **What is wrong with a list of functions that the decoder panics
on.** -/
inductive ListDefect (payload : Bytes) : Prop
  /-- The list is not empty and does not start with an attribute. -/
  | wrapper (hne : payload ≠ []) (h : ¬ NlaValid payload) : ListDefect payload
  /-- A function of the list. -/
  | info {nb : NlaBuffer} (hr : NlaReached turn payload nb) (hk : wireKind nb = IFLA_VF_INFO)
      (h : Defect (nlaValue nb.buffer)) : ListDefect payload

/-- The list panics at a defect or at the text of its own error. -/
theorem parseVec_eq_panic_iff : parseVec ⟨payload⟩ = .panic ↔ ListDefect payload := by
  show List.flatten <$> parseEachEager (_ <$> value ⟨payload⟩) turn payload = .panic ↔ _
  rw [Outcome.map_eq_panic, parseEachEager_eq_panic_iff]
  constructor
  · rintro (⟨hne, h⟩ | ⟨nb, hr, hp⟩)
    · exact .wrapper hne h
    · obtain ⟨hk, h⟩ := (turn_eq_panic_iff (valid_of_mem_nlas hr.mem)).1 hp
      exact .info hr hk h
  · rintro (⟨hne, h⟩ | ⟨hr, hk, h⟩)
    · exact .inl ⟨hne, h⟩
    · exact .inr ⟨_, hr, (turn_eq_panic_iff (valid_of_mem_nlas hr.mem)).2 ⟨hk, h⟩⟩

end LinkVfInfo

/-! ## Lists of ports -/

namespace LinkVfPort

/-- A port container panics at the text of its own error, on a malformed
first attribute. -/
theorem parse_eq_panic_iff : parse ⟨payload⟩ = .panic ↔ payload ≠ [] ∧ ¬ NlaValid payload := by
  rw [parse, Outcome.map_eq_panic]
  exact UnnamedNla.parseEager_eq_panic_iff

/-- The turn of `VecLinkVfPort::parse` for one attribute. -/
def turn (nla : NlaBuffer) : Outcome (List LinkVfPort) := do
  if (← PacketUtils.kind nla) = IFLA_VF_PORT then return [← parse ⟨← value nla⟩]
  else return []

/-- A turn of the list of ports does the same inside a container. -/
theorem turn_eq_panic_iff (hv : NlaValid nb.buffer) : turn nb = .panic ↔
    wireKind nb = IFLA_VF_PORT ∧ nlaValue nb.buffer ≠ [] ∧ ¬ NlaValid (nlaValue nb.buffer) := by
  rw [turn, hv.carries.kind, Outcome.ok_bind]
  split
  · next hk =>
    simp only [hv.carries.value, Outcome.ok_bind, Outcome.bind_eq_panic, parse_eq_panic_iff]
    simp [hk]
  · next hk => simp [hk]

/-- **What is wrong with a list of ports that the decoder panics on.** -/
inductive ListDefect (payload : Bytes) : Prop
  /-- The list is not empty and does not start with an attribute. -/
  | wrapper (hne : payload ≠ []) (h : ¬ NlaValid payload) : ListDefect payload
  /-- The same of a port of the list. -/
  | port {nb : NlaBuffer} (hr : NlaReached turn payload nb) (hk : wireKind nb = IFLA_VF_PORT)
      (hne : nlaValue nb.buffer ≠ []) (h : ¬ NlaValid (nlaValue nb.buffer)) : ListDefect payload

/-- The list of ports panics as the list of functions does. -/
theorem parseVec_eq_panic_iff : parseVec ⟨payload⟩ = .panic ↔ ListDefect payload := by
  show List.flatten <$> parseEachEager (_ <$> value ⟨payload⟩) turn payload = .panic ↔ _
  rw [Outcome.map_eq_panic, parseEachEager_eq_panic_iff]
  constructor
  · rintro (⟨hne, h⟩ | ⟨nb, hr, hp⟩)
    · exact .wrapper hne h
    · obtain ⟨hk, hne, h⟩ := (turn_eq_panic_iff (valid_of_mem_nlas hr.mem)).1 hp
      exact .port hr hk hne h
  · rintro (⟨hne, h⟩ | ⟨hr, hk, hne, h⟩)
    · exact .inl ⟨hne, h⟩
    · exact .inr ⟨_, hr, (turn_eq_panic_iff (valid_of_mem_nlas hr.mem)).2 ⟨hk, hne, h⟩⟩

end LinkVfPort

/-- **The decoders of virtual functions return, with a value or an error,
exactly when their payloads have no defect.** -/
theorem LinkVfInfo.parseVec_returns_iff (p : Bytes) :
    (LinkVfInfo.parseVec ⟨p⟩ ≠ .panic ↔ ¬ LinkVfInfo.ListDefect p) ∧
      (LinkVfPort.parseVec ⟨p⟩ ≠ .panic ↔ ¬ LinkVfPort.ListDefect p) ∧
      (LinkVfPort.parse ⟨p⟩ ≠ .panic ↔ (p = [] ∨ NlaValid p)) := by
  refine ⟨not_congr LinkVfInfo.parseVec_eq_panic_iff, not_congr LinkVfPort.parseVec_eq_panic_iff,
    (not_congr LinkVfPort.parse_eq_panic_iff).trans ?_⟩
  rw [not_and_or, not_not, not_not]

end

/-! ## On a little-endian host -/

section Panics

attribute [local instance] Reference.little

/-- Four zero bytes in place of each list, and a function with a MAC
address of two bytes. -/
theorem LinkVfInfo.parseVec_zeros_panics :
    LinkVfInfo.parseVec ⟨zeros 4⟩ = .panic ∧
      LinkVfInfo.parseVec ⟨[12, 0, 1, 0, 6, 0, 1, 0, 1, 2, 0, 0]⟩ = .panic ∧
      LinkVfPort.parseVec ⟨zeros 4⟩ = .panic ∧ LinkVfPort.parse ⟨zeros 4⟩ = .panic :=
  ⟨rfl, rfl, rfl, rfl⟩

end Panics

end NetlinkRoute
