import NetlinkRoute.Link.Model.Bond
/-!
# Link — bonds and their ports come back

What is written of a bond or of a port is read again as it was
(`InfoBond.roundTrips`, `InfoBondPort.roundTrips`), and what is read can
be written (`InfoBond.holds_parse`, `InfoBondPort.holds_parse`). The
targets of a bond come back whatever their positions were: the numbers
are given anew, and the decoder does not look at them.
-/

namespace NetlinkRoute

open PacketUtils Emitter

section

variable [PacketUtils]

/-! ## Targets -/

section Targets

variable {α : Type} {p : IpAddr → List α} {ip : IpAddr}

/-- A target comes back where its version is the one picked. -/
theorem BondIpAddrNla.roundTrips {i : UInt16} :
    RoundTrips (pickTarget p) (BondIpAddrNla.nla ⟨i, ip⟩) (p ip) := by
  cases ip with
  | v4 addr =>
    refine writes_octets.roundTrips fun nb hc => ?_
    rw [pickTarget, hc.value, Outcome.ok_bind, parseIp_four addr.property, Octets.ofBytes_coe]
  | v6 addr =>
    refine writes_octets.roundTrips fun nb hc => ?_
    rw [pickTarget, hc.value, Outcome.ok_bind, parseIp_sixteen addr.property, Octets.ofBytes_coe]

private theorem exists_parseTargets {ips : List IpAddr}
    (hlen : nlasLen ((BondIpAddrNla.list ips).map BondIpAddrNla.nla) ≤ 65531) :
    ∃ out, Fills (emitNlas ((BondIpAddrNla.list ips).map BondIpAddrNla.nla))
        (nlasLen ((BondIpAddrNla.list ips).map BondIpAddrNla.nla)) out ∧
      ∀ err, parseEachWith err (pickTarget p) out = .ok (ips.map p) := by
  obtain ⟨out, hout, hread⟩ := exists_readsAs (r := fun a : BondIpAddrNla => p a.addr)
    (fun a _ _ => BondIpAddrNla.roundTrips) hlen
  have hmap : (BondIpAddrNla.list ips).map (fun a => p a.addr) = ips.map p := by
    rw [BondIpAddrNla.list, List.map_map]
    show ips.zipIdx.map (p ∘ Prod.fst) = ips.map p
    rw [← List.map_map, List.zipIdx_map_fst]
  exact ⟨out, hout, fun err => hmap ▸ hread.parseEachWith_eq⟩

/-- **The targets of a list come back in order**, whichever are picked. -/
theorem BondIpAddrNla.exists_parseEachWith {ips : List IpAddr}
    (hlen : nlasLen ((BondIpAddrNla.list ips).map BondIpAddrNla.nla) ≤ 65531) :
    ∃ out, Fills (emitNlas ((BondIpAddrNla.list ips).map BondIpAddrNla.nla))
        (nlasLen ((BondIpAddrNla.list ips).map BondIpAddrNla.nla)) out ∧
      ∀ (p : IpAddr → List α) (err : String),
        parseEachWith err (pickTarget p) out = .ok (ips.map p) := by
  obtain ⟨out, hout, -⟩ := exists_parseTargets (p := fun _ => ([] : List α)) hlen
  refine ⟨out, hout, fun p err => ?_⟩
  obtain ⟨out', hout', hp⟩ := exists_parseTargets (p := p) hlen
  -- what is written does not depend on what is picked
  rw [Outcome.ok.inj (hout.symm.trans hout')]
  exact hp err

end Targets

/-! ## Bonds -/

namespace BondAdInfo

variable {a : BondAdInfo} {nb : NlaBuffer}

/-- The kinds the decoder names. -/
def kinds : List UInt16 :=
  [IFLA_BOND_AD_INFO_AGGREGATOR, IFLA_BOND_AD_INFO_NUM_PORTS, IFLA_BOND_AD_INFO_ACTOR_KEY,
    IFLA_BOND_AD_INFO_PARTNER_KEY, IFLA_BOND_AD_INFO_PARTNER_MAC]

/-- An unknown attribute is of none of the kinds the decoder names. -/
def Canonical : BondAdInfo → Prop
  | .other n => n.Unknown kinds
  | _ => True

/-- Aggregation info comes back. -/
theorem roundTrips (h : a.Canonical) : RoundTrips parse a.nla a := by
  cases a with
  | aggregator _ => exact writes_u16.roundTrips_arm IFLA_BOND_AD_INFO_AGGREGATOR rfl rfl (by simp)
  | numPorts _ => exact writes_u16.roundTrips_arm IFLA_BOND_AD_INFO_NUM_PORTS rfl rfl (by simp)
  | actorKey _ => exact writes_u16.roundTrips_arm IFLA_BOND_AD_INFO_ACTOR_KEY rfl rfl (by simp)
  | partnerKey _ => exact writes_u16.roundTrips_arm IFLA_BOND_AD_INFO_PARTNER_KEY rfl rfl (by simp)
  | partnerMac _ =>
    exact writes_octets.roundTrips_arm IFLA_BOND_AD_INFO_PARTNER_MAC rfl rfl (by simp)
  | other n => exact .of_default h

/-- The parser of aggregation info gives canonical values only. -/
theorem holds_parse (hv : NlaValid nb.buffer) : (parse nb).Holds Canonical :=
  hv.holds_parse (by simp [Canonical]) fun _ hk => hk

end BondAdInfo

namespace InfoBond

variable {a : InfoBond} {nb : NlaBuffer}

/-- The kinds the decoder names. -/
def kinds : List UInt16 :=
  [IFLA_BOND_MODE, IFLA_BOND_ACTIVE_PORT, IFLA_BOND_MIIMON, IFLA_BOND_UPDELAY,
    IFLA_BOND_DOWNDELAY, IFLA_BOND_USE_CARRIER, IFLA_BOND_ARP_INTERVAL, IFLA_BOND_ARP_IP_TARGET,
    IFLA_BOND_ARP_VALIDATE, IFLA_BOND_ARP_ALL_TARGETS, IFLA_BOND_PRIMARY,
    IFLA_BOND_PRIMARY_RESELECT, IFLA_BOND_FAIL_OVER_MAC, IFLA_BOND_XMIT_HASH_POLICY,
    IFLA_BOND_RESEND_IGMP, IFLA_BOND_NUM_PEER_NOTIF, IFLA_BOND_ALL_PORTS_ACTIVE,
    IFLA_BOND_MIN_LINKS, IFLA_BOND_LP_INTERVAL, IFLA_BOND_PACKETS_PER_PORT,
    IFLA_BOND_AD_LACP_RATE, IFLA_BOND_AD_SELECT, IFLA_BOND_AD_INFO, IFLA_BOND_AD_ACTOR_SYS_PRIO,
    IFLA_BOND_AD_USER_PORT_KEY, IFLA_BOND_AD_ACTOR_SYSTEM, IFLA_BOND_TLB_DYNAMIC_LB,
    IFLA_BOND_PEER_NOTIF_DELAY, IFLA_BOND_AD_LACP_ACTIVE, IFLA_BOND_MISSED_MAX,
    IFLA_BOND_NS_IP6_TARGET]

/-- Enumerations are canonical, and an unknown attribute is of none of the
kinds the decoder names. -/
def Canonical : InfoBond → Prop
  | .mode v => BondMode.codec.Canonical v
  | .adInfo l => ∀ i ∈ l, i.Canonical
  | .other n => n.Unknown kinds
  | _ => True

/-- A canonical attribute of a bond comes back. -/
theorem roundTrips (h : a.Canonical) (hs : a.valueLen ≤ 65531) : RoundTrips parse a.nla a := by
  cases a with
  | mode _ =>
    exact writes_u8.roundTrips_arm IFLA_BOND_MODE rfl rfl
      (by simp [EnumCodec.Canonical.ofNum_toNum h])
  | activePort _ => exact writes_u32.roundTrips_arm IFLA_BOND_ACTIVE_PORT rfl rfl (by simp)
  | miiMon _ => exact writes_u32.roundTrips_arm IFLA_BOND_MIIMON rfl rfl (by simp)
  | upDelay _ => exact writes_u32.roundTrips_arm IFLA_BOND_UPDELAY rfl rfl (by simp)
  | downDelay _ => exact writes_u32.roundTrips_arm IFLA_BOND_DOWNDELAY rfl rfl (by simp)
  | useCarrier _ => exact writes_u8.roundTrips_arm IFLA_BOND_USE_CARRIER rfl rfl (by simp)
  | arpInterval _ => exact writes_u32.roundTrips_arm IFLA_BOND_ARP_INTERVAL rfl rfl (by simp)
  | arpIpTarget addrs =>
    obtain ⟨out, hout, hp⟩ := BondIpAddrNla.exists_parseEachWith hs
    refine .of_arm hout IFLA_BOND_ARP_IP_TARGET rfl rfl
      ((Outcome.map_eq_ok _).2 ⟨_, hp _ _, congrArg arpIpTarget ?_⟩)
    rw [List.map_map, ← List.flatMap_def]
    exact List.flatMap_singleton' addrs
  | arpValidate _ => exact writes_u32.roundTrips_arm IFLA_BOND_ARP_VALIDATE rfl rfl (by simp)
  | arpAllTargets _ => exact writes_u32.roundTrips_arm IFLA_BOND_ARP_ALL_TARGETS rfl rfl (by simp)
  | primary _ => exact writes_u32.roundTrips_arm IFLA_BOND_PRIMARY rfl rfl (by simp)
  | primaryReselect _ => exact writes_u8.roundTrips_arm IFLA_BOND_PRIMARY_RESELECT rfl rfl (by simp)
  | failOverMac _ => exact writes_u8.roundTrips_arm IFLA_BOND_FAIL_OVER_MAC rfl rfl (by simp)
  | xmitHashPolicy _ => exact writes_u8.roundTrips_arm IFLA_BOND_XMIT_HASH_POLICY rfl rfl (by simp)
  | resendIgmp _ => exact writes_u32.roundTrips_arm IFLA_BOND_RESEND_IGMP rfl rfl (by simp)
  | numPeerNotif _ => exact writes_u8.roundTrips_arm IFLA_BOND_NUM_PEER_NOTIF rfl rfl (by simp)
  | allPortsActive _ => exact writes_u8.roundTrips_arm IFLA_BOND_ALL_PORTS_ACTIVE rfl rfl (by simp)
  | minLinks _ => exact writes_u32.roundTrips_arm IFLA_BOND_MIN_LINKS rfl rfl (by simp)
  | lpInterval _ => exact writes_u32.roundTrips_arm IFLA_BOND_LP_INTERVAL rfl rfl (by simp)
  | packetsPerPort _ => exact writes_u32.roundTrips_arm IFLA_BOND_PACKETS_PER_PORT rfl rfl (by simp)
  | adLacpRate _ => exact writes_u8.roundTrips_arm IFLA_BOND_AD_LACP_RATE rfl rfl (by simp)
  | adSelect _ => exact writes_u8.roundTrips_arm IFLA_BOND_AD_SELECT rfl rfl (by simp)
  | adInfo l =>
    obtain ⟨out, hout, hread⟩ := exists_readsAs (r := id) (t := BondAdInfo.nla)
      (fun i hi _ => BondAdInfo.roundTrips (h i hi)) hs
    exact .of_arm hout IFLA_BOND_AD_INFO rfl rfl (by simp [hread.parseNlas_eq])
  | adActorSysPrio _ =>
    exact writes_u16.roundTrips_arm IFLA_BOND_AD_ACTOR_SYS_PRIO rfl rfl (by simp)
  | adUserPortKey _ => exact writes_u16.roundTrips_arm IFLA_BOND_AD_USER_PORT_KEY rfl rfl (by simp)
  | adActorSystem _ =>
    exact writes_octets.roundTrips_arm IFLA_BOND_AD_ACTOR_SYSTEM rfl rfl (by simp)
  | tlbDynamicLb _ => exact writes_u8.roundTrips_arm IFLA_BOND_TLB_DYNAMIC_LB rfl rfl (by simp)
  | peerNotifDelay _ => exact writes_u32.roundTrips_arm IFLA_BOND_PEER_NOTIF_DELAY rfl rfl (by simp)
  | adLacpActive _ => exact writes_u8.roundTrips_arm IFLA_BOND_AD_LACP_ACTIVE rfl rfl (by simp)
  | missedMax _ => exact writes_u8.roundTrips_arm IFLA_BOND_MISSED_MAX rfl rfl (by simp)
  | nsIp6Target addrs =>
    obtain ⟨out, hout, hp⟩ := BondIpAddrNla.exists_parseEachWith hs
    refine .of_arm hout IFLA_BOND_NS_IP6_TARGET rfl rfl
      ((Outcome.map_eq_ok _).2 ⟨_, hp _ _, congrArg nsIp6Target ?_⟩)
    rw [List.map_map, ← List.flatMap_def]
    exact List.flatMap_singleton' addrs
  | other n => exact .of_default h

/-- The parser of a bond gives canonical attributes only. -/
theorem holds_parse (hv : NlaValid nb.buffer) : (parse nb).Holds Canonical := by
  have hinfo : ∀ err err', (parseNlas err err' BondAdInfo.parse (nlaValue nb.buffer)).Holds
      fun l => ∀ i ∈ l, i.Canonical := fun _ _ =>
    holds_parseNlas fun _ hnb => BondAdInfo.holds_parse (valid_of_mem_nlas hnb)
  exact hv.holds_parse (by simp [Canonical, hinfo]) fun _ hk => hk

end InfoBond

/-! ## Ports of a bond -/

namespace InfoBondPort

variable {a : InfoBondPort} {nb : NlaBuffer}

/-- The kinds the decoder names. -/
def kinds : List UInt16 :=
  [IFLA_BOND_PORT_LINK_FAILURE_COUNT, IFLA_BOND_PORT_MII_STATUS, IFLA_BOND_PORT_PERM_HWADDR,
    IFLA_BOND_PORT_PRIO, IFLA_BOND_PORT_QUEUE_ID, IFLA_BOND_PORT_STATE]

/-- Enumerations are canonical, and an unknown attribute is of none of the
kinds the decoder names. -/
def Canonical : InfoBondPort → Prop
  | .miiStatus v => MiiStatus.codec.Canonical v
  | .bondPortState v => BondPortState.codec.Canonical v
  | .other n => n.Unknown kinds
  | _ => True

/-- A canonical attribute of a bond port comes back. -/
theorem roundTrips (h : a.Canonical) : RoundTrips parse a.nla a := by
  cases a with
  | linkFailureCount _ =>
    exact writes_u32.roundTrips_arm IFLA_BOND_PORT_LINK_FAILURE_COUNT rfl rfl (by simp)
  | miiStatus _ =>
    exact writes_u8.roundTrips_arm IFLA_BOND_PORT_MII_STATUS rfl rfl
      (by simp [EnumCodec.Canonical.ofNum_toNum h])
  | permHwaddr _ => exact writes_bytes.roundTrips_arm IFLA_BOND_PORT_PERM_HWADDR rfl rfl (by simp)
  | prio _ => exact writes_i32.roundTrips_arm IFLA_BOND_PORT_PRIO rfl rfl (by simp)
  | queueId _ => exact writes_u16.roundTrips_arm IFLA_BOND_PORT_QUEUE_ID rfl rfl (by simp)
  | bondPortState _ =>
    exact writes_u8.roundTrips_arm IFLA_BOND_PORT_STATE rfl rfl
      (by simp [EnumCodec.Canonical.ofNum_toNum h])
  | other n => exact .of_default h

/-- Its parser gives canonical attributes only. -/
theorem holds_parse (hv : NlaValid nb.buffer) : (parse nb).Holds Canonical :=
  hv.holds_parse (by simp [Canonical]) fun _ hk => hk

end InfoBondPort

end

end NetlinkRoute
