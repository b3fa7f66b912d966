import NetlinkRoute.Link.RoundTrip.Values
/-!
# Link — virtual functions come back

What is written of the virtual functions of a device is read again as it
was, three levels deep, and what is read can be written: entries of other
kinds than a function's or a port's were skipped, and are no part of the
value.
-/

namespace NetlinkRoute

open PacketUtils Emitter

section

variable [PacketUtils] {nb : NlaBuffer} {payload : Bytes}

/-! ## Lists of containers -/

section Containers

variable {α : Type} {parse : Bytes → Outcome α} {P : α → Prop} {n : Nla} {k : UInt16} {a : α}

/-- One turn over a list of containers of one kind: others are skipped. -/
theorem roundTrips_container (hn : n.kind = k) (hk : k &&& NLA_TYPE_MASK = k)
    (h : ∃ v, n.Payload v ∧ parse v = .ok a) :
    RoundTrips (fun nb => do
      if (← PacketUtils.kind nb) = k then return [← parse (← value nb)] else return []) n [a] := by
  obtain ⟨v, hv, hp⟩ := h
  refine ⟨v, hv, fun nb hc => ?_⟩
  show (PacketUtils.kind nb >>= fun kind => _) = _
  rw [hc.kind, hn, hk, Outcome.ok_bind, if_pos rfl, hc.value, Outcome.ok_bind, hp]
  rfl

/-- What holds of each container holds of the containers kept in the list. -/
theorem holds_containers {text : Outcome String} (h : ∀ v, (parse v).Holds P) :
    (List.flatten <$> parseEachEager text (fun nb => do
      if (← PacketUtils.kind nb) = k then return [← parse (← value nb)] else return [])
        payload).Holds fun l => ∀ i ∈ l, P i := by
  refine Outcome.holds_map.2 ?_
  have hturn : (parseEachEager text (fun nb => do
      if (← PacketUtils.kind nb) = k then return [← parse (← value nb)] else return [])
        payload).Holds fun ls => ∀ l ∈ ls, ∀ i ∈ l, P i := by
    refine holds_parseEachEager fun nb hnb => ?_
    have hc := (valid_of_mem_nlas hnb).carries
    rw [hc.kind, hc.value, Outcome.ok_bind, Outcome.ok_bind]
    split
    · refine Outcome.holds_bind.2 ((h _).mono fun a ha => ?_)
      simpa using ha
    · simp
  refine hturn.mono fun ls hls i hi => ?_
  obtain ⟨l, hl, hil⟩ := List.mem_flatten.1 hi
  exact hls l hl i hil

end Containers

/-! ## Functions -/

namespace VfStats

variable {a : VfStats}

/-- The kinds the decoder names. -/
def kinds : List UInt16 :=
  [IFLA_VF_STATS_RX_PACKETS, IFLA_VF_STATS_TX_PACKETS, IFLA_VF_STATS_RX_BYTES,
    IFLA_VF_STATS_TX_BYTES, IFLA_VF_STATS_BROADCAST, IFLA_VF_STATS_MULTICAST,
    IFLA_VF_STATS_RX_DROPPED, IFLA_VF_STATS_TX_DROPPED]

/-- An unknown attribute is of none of the kinds the decoder names. -/
def Canonical : VfStats → Prop
  | .other n => n.Unknown kinds
  | _ => True

/-- A canonical counter of a function comes back. -/
theorem roundTrips (h : a.Canonical) : RoundTrips parse a.nla a := by
  cases a with
  | rxPackets _ => exact writes_u64.roundTrips_arm IFLA_VF_STATS_RX_PACKETS rfl rfl (by simp)
  | txPackets _ => exact writes_u64.roundTrips_arm IFLA_VF_STATS_TX_PACKETS rfl rfl (by simp)
  | rxBytes _ => exact writes_u64.roundTrips_arm IFLA_VF_STATS_RX_BYTES rfl rfl (by simp)
  | txBytes _ => exact writes_u64.roundTrips_arm IFLA_VF_STATS_TX_BYTES rfl rfl (by simp)
  | broadcast _ => exact writes_u64.roundTrips_arm IFLA_VF_STATS_BROADCAST rfl rfl (by simp)
  | multicast _ => exact writes_u64.roundTrips_arm IFLA_VF_STATS_MULTICAST rfl rfl (by simp)
  | rxDropped _ => exact writes_u64.roundTrips_arm IFLA_VF_STATS_RX_DROPPED rfl rfl (by simp)
  | txDropped _ => exact writes_u64.roundTrips_arm IFLA_VF_STATS_TX_DROPPED rfl rfl (by simp)
  | other n => exact .of_default h

theorem holds_parse (hv : NlaValid nb.buffer) : (parse nb).Holds Canonical :=
  hv.holds_parse (by simp [Canonical]) fun _ hk => hk

end VfStats

namespace VfVlan

variable {a : VfVlan}

/-- An unknown attribute is of none of the kinds the decoder names. -/
def Canonical : VfVlan → Prop
  | .other n => n.Unknown [IFLA_VF_VLAN_INFO]
  | _ => True

/-- A canonical VLAN entry of a function comes back. -/
theorem roundTrips (h : a.Canonical) : RoundTrips parse a.nla a := by
  cases a with
  | info v =>
    exact .of_arm VfVlanInfo.codec.fills_emit IFLA_VF_VLAN_INFO rfl rfl
      (by simp [HeaderCodec.parse_bytes (c := VfVlanInfo.codec) (h := v) trivial])
  | other n => exact .of_default h

theorem holds_parse (hv : NlaValid nb.buffer) : (parse nb).Holds Canonical :=
  hv.holds_parse (by simp [Canonical]) fun _ hk => hk

end VfVlan

namespace VfInfo

variable {a : VfInfo}

/-- The kinds the decoder names. -/
def kinds : List UInt16 :=
  [IFLA_VF_MAC, IFLA_VF_VLAN, IFLA_VF_BROADCAST, IFLA_VF_RATE, IFLA_VF_TX_RATE, IFLA_VF_SPOOFCHK,
    IFLA_VF_LINK_STATE, IFLA_VF_RSS_QUERY_EN, IFLA_VF_TRUST, IFLA_VF_IB_NODE_GUID,
    IFLA_VF_IB_PORT_GUID, IFLA_VF_VLAN_LIST, IFLA_VF_STATS]

/-- Enumerations are canonical, so is every attribute inside, and an
unknown attribute is of none of the kinds the decoder names. -/
def Canonical : VfInfo → Prop
  | .linkState v => VfLinkState.codec.Canonical v.state
  | .vlanList l => ∀ i ∈ l, i.Canonical
  | .stats l => ∀ i ∈ l, i.Canonical
  | .other n => n.Unknown kinds
  | _ => True

/-- A canonical attribute of a function comes back, nested lists within
their length word included. -/
theorem roundTrips (h : a.Canonical) (hs : a.valueLen ≤ 65531) : RoundTrips parse a.nla a := by
  cases a with
  | mac _ =>
    exact VfInfoMac.codec.writes_emit.roundTrips_arm IFLA_VF_MAC rfl rfl (by simp)
  | broadcast _ =>
    exact VfInfoBroadcast.codec.writes_emit.roundTrips_arm IFLA_VF_BROADCAST rfl rfl (by simp)
  | vlan _ =>
    exact VfInfoVlan.codec.writes_emit.roundTrips_arm IFLA_VF_VLAN rfl rfl (by simp)
  | rate _ =>
    exact VfInfoRate.codec.writes_emit.roundTrips_arm IFLA_VF_RATE rfl rfl (by simp)
  | txRate _ =>
    exact VfInfoTxRate.codec.writes_emit.roundTrips_arm IFLA_VF_TX_RATE rfl rfl (by simp)
  | spoofCheck v =>
    exact .of_arm VfInfoSetting.codec.fills_emit IFLA_VF_SPOOFCHK rfl rfl
      (by simp [HeaderCodec.parse_bytes (c := VfInfoSetting.codec) (h := v) trivial])
  | linkState v =>
    exact .of_arm VfInfoLinkState.codec.fills_emit IFLA_VF_LINK_STATE rfl rfl
      (by simp [HeaderCodec.parse_bytes (c := VfInfoLinkState.codec) (h := v) h])
  | rssQueryEn v =>
    exact .of_arm VfInfoSetting.codec.fills_emit IFLA_VF_RSS_QUERY_EN rfl rfl
      (by simp [HeaderCodec.parse_bytes (c := VfInfoSetting.codec) (h := v) trivial])
  | trust v =>
    exact .of_arm VfInfoSetting.codec.fills_emit IFLA_VF_TRUST rfl rfl
      (by simp [HeaderCodec.parse_bytes (c := VfInfoSetting.codec) (h := v) trivial])
  | ibNodeGuid _ =>
    exact VfInfoGuid.codec.writes_emit.roundTrips_arm IFLA_VF_IB_NODE_GUID rfl rfl (by simp)
  | ibPortGuid _ =>
    exact VfInfoGuid.codec.writes_emit.roundTrips_arm IFLA_VF_IB_PORT_GUID rfl rfl (by simp)
  | vlanList l =>
    obtain ⟨out, hout, hread⟩ := exists_readsAs (r := id) (t := VfVlan.nla)
      (fun i hi _ => VfVlan.roundTrips (h i hi)) hs
    exact .of_arm hout IFLA_VF_VLAN_LIST rfl rfl (by simp [hread.parseEachWith_eq])
  | stats l =>
    obtain ⟨out, hout, hread⟩ := exists_readsAs (r := id) (t := VfStats.nla)
      (fun i hi _ => VfStats.roundTrips (h i hi)) hs
    exact .of_arm hout IFLA_VF_STATS rfl rfl (by simp [hread.parseEachWith_eq])
  | other n => exact .of_default h

/-- The parser of a function gives canonical attributes only. -/
theorem holds_parse (hv : NlaValid nb.buffer) : (parse nb).Holds Canonical := by
  have hvlan : ∀ err, (parseEachWith err VfVlan.parse (nlaValue nb.buffer)).Holds
      fun l => ∀ i ∈ l, i.Canonical := fun _ =>
    holds_parseEachWith fun _ hnb => VfVlan.holds_parse (valid_of_mem_nlas hnb)
  have hstats : ∀ err, (parseEachWith err VfStats.parse (nlaValue nb.buffer)).Holds
      fun l => ∀ i ∈ l, i.Canonical := fun _ =>
    holds_parseEachWith fun _ hnb => VfStats.holds_parse (valid_of_mem_nlas hnb)
  have hstate : (VfInfoLinkState.codec.parse (nlaValue nb.buffer)).Holds
      fun v => VfLinkState.codec.Canonical v.state := by
    refine Outcome.holds_bind.2 fun vfId _ => Outcome.holds_bind.2 fun state _ => ?_
    simp
  exact hv.holds_parse (by simp [Canonical, hvlan, hstats, hstate]) fun _ hk => hk

end VfInfo

namespace LinkVfInfo

variable {a : LinkVfInfo} {l : List LinkVfInfo}

/-- What is known of the function is canonical. -/
def Canonical (a : LinkVfInfo) : Prop := ∀ i ∈ a.infos, i.Canonical

/-- A function comes back from the payload it writes. -/
theorem exists_parse (h : a.Canonical) (hs : a.nla.valueLen ≤ 65531) :
    ∃ v, a.nla.Payload v ∧ parse ⟨v⟩ = .ok a := by
  obtain ⟨out, hout, hread⟩ := exists_readsAs (r := id) (t := VfInfo.nla)
    (fun i hi hi' => VfInfo.roundTrips (h i hi) hi') hs
  rw [List.map_id] at hread
  exact ⟨out, hout, by rw [parse, hread.parseEachEager_eq]; rfl⟩

/-- A list of functions comes back, container by container. -/
theorem exists_parseVec (h : ∀ i ∈ l, i.Canonical) (hs : nlasLen (l.map nla) ≤ 65531) :
    ∃ out, Fills (emitNlas (l.map nla)) (nlasLen (l.map nla)) out ∧ parseVec ⟨out⟩ = .ok l := by
  obtain ⟨out, hout, hread⟩ := exists_readsAs (r := fun a => [a])
    (fun i hi hi' => roundTrips_container (k := IFLA_VF_INFO) (n := i.nla) rfl (by decide)
      (exists_parse (h i hi) hi')) hs
  refine ⟨out, hout, ?_⟩
  rw [parseVec, hread.parseEachEager_eq, Outcome.map_ok, ← List.flatMap_def,
    List.flatMap_singleton']

theorem holds_parse {buf : NlaBuffer} : (parse buf).Holds Canonical :=
  Outcome.holds_map.2
    (holds_parseEachEager fun _ hnb => VfInfo.holds_parse (valid_of_mem_nlas hnb))

/-- The list of functions is canonical throughout. -/
theorem holds_parseVec {buf : NlaBuffer} : (parseVec buf).Holds fun l => ∀ i ∈ l, i.Canonical :=
  holds_containers fun _ => holds_parse

end LinkVfInfo

/-! ## Ports -/

namespace LinkVfPort

variable {a : LinkVfPort} {l : List LinkVfPort}

/-- A port comes back from the payload it writes. -/
theorem exists_parse (hs : a.nla.valueLen ≤ 65531) :
    ∃ v, a.nla.Payload v ∧ parse ⟨v⟩ = .ok a := by
  obtain ⟨out, hout, hread⟩ := exists_readsAs (r := id) (p := VfPort.parse) (t := UnnamedNla.nla)
    (fun i _ _ => UnnamedNla.roundTrips) hs
  rw [List.map_id] at hread
  exact ⟨out, hout, by rw [parse, hread.parseEachEager_eq]; rfl⟩

/-- So does a list of ports. -/
theorem exists_parseVec (hs : nlasLen (l.map nla) ≤ 65531) :
    ∃ out, Fills (emitNlas (l.map nla)) (nlasLen (l.map nla)) out ∧ parseVec ⟨out⟩ = .ok l := by
  obtain ⟨out, hout, hread⟩ := exists_readsAs (r := fun a => [a])
    (fun i _ hi' => roundTrips_container (k := IFLA_VF_PORT) (n := i.nla) rfl (by decide)
      (exists_parse hi')) hs
  refine ⟨out, hout, ?_⟩
  rw [parseVec, hread.parseEachEager_eq, Outcome.map_ok, ← List.flatMap_def,
    List.flatMap_singleton']

end LinkVfPort

end

end NetlinkRoute
