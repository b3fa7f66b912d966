import NetlinkRoute.Link.Leaves
/-!
# Link — bridges and their ports come back

What is written of a bridge or of a port is read again as it was
(`InfoBridge.roundTrips`, `InfoBridgePort.roundTrips`), and what is read
can be written (`InfoBridge.holds_parse`, `InfoBridgePort.holds_parse`).
-/

namespace NetlinkRoute

open PacketUtils Emitter

section

variable [PacketUtils]

/-! ## Bridges -/

namespace BridgeQuerierState

variable {a : BridgeQuerierState} {nb : NlaBuffer}

/-- The kinds the decoder names. -/
def kinds : List UInt16 :=
  [BRIDGE_QUERIER_IP_ADDRESS, BRIDGE_QUERIER_IPV6_ADDRESS, BRIDGE_QUERIER_IP_PORT,
    BRIDGE_QUERIER_IPV6_PORT, BRIDGE_QUERIER_IP_OTHER_TIMER, BRIDGE_QUERIER_IPV6_OTHER_TIMER]

/-- An unknown attribute is of none of the kinds the decoder names. -/
def Canonical : BridgeQuerierState → Prop
  | .other n => n.Unknown kinds
  | _ => True

/-- The querier state comes back. -/
theorem roundTrips (h : a.Canonical) : RoundTrips parse a.nla a := by
  cases a with
  | ipv4Address v =>
    refine writes_octets.roundTrips_arm BRIDGE_QUERIER_IP_ADDRESS rfl rfl ?_
    simp only [parseIp_four v.property, Octets.ofBytes_coe]
  | ipv4Port _ => exact writes_u32.roundTrips_arm BRIDGE_QUERIER_IP_PORT rfl rfl (by simp)
  | ipv4OtherTimer _ =>
    exact writes_u64.roundTrips_arm BRIDGE_QUERIER_IP_OTHER_TIMER rfl rfl (by simp)
  | ipv6Address v =>
    refine writes_octets.roundTrips_arm BRIDGE_QUERIER_IPV6_ADDRESS rfl rfl ?_
    simp only [parseIp_sixteen v.property, Octets.ofBytes_coe]
  | ipv6Port _ => exact writes_u32.roundTrips_arm BRIDGE_QUERIER_IPV6_PORT rfl rfl (by simp)
  | ipv6OtherTimer _ =>
    exact writes_u64.roundTrips_arm BRIDGE_QUERIER_IPV6_OTHER_TIMER rfl rfl (by simp)
  | other n => exact .of_default h

/-- Its parser gives canonical values only. -/
theorem holds_parse (hv : NlaValid nb.buffer) : (parse nb).Holds Canonical := by
  refine hv.holds_parse ?_ fun _ hk => hk
  cases h : parseIp (nlaValue nb.buffer) with
  | ok ip => cases ip <;> simp [Canonical]
  | err e => simp [Canonical]
  | panic => exact absurd h parseIp_ne_panic

end BridgeQuerierState

namespace InfoBridge

variable {a : InfoBridge} {nb : NlaBuffer}

/-- The kinds the decoder names. -/
def kinds : List UInt16 :=
  [IFLA_BR_FDB_FLUSH, IFLA_BR_HELLO_TIMER, IFLA_BR_TCN_TIMER, IFLA_BR_TOPOLOGY_CHANGE_TIMER,
    IFLA_BR_GC_TIMER, IFLA_BR_MCAST_LAST_MEMBER_INTVL, IFLA_BR_MCAST_MEMBERSHIP_INTVL,
    IFLA_BR_MCAST_QUERIER_INTVL, IFLA_BR_MCAST_QUERY_INTVL, IFLA_BR_MCAST_QUERY_RESPONSE_INTVL,
    IFLA_BR_MCAST_STARTUP_QUERY_INTVL, IFLA_BR_FORWARD_DELAY, IFLA_BR_HELLO_TIME, IFLA_BR_MAX_AGE,
    IFLA_BR_AGEING_TIME, IFLA_BR_STP_STATE, IFLA_BR_MCAST_HASH_ELASTICITY, IFLA_BR_MCAST_HASH_MAX,
    IFLA_BR_MCAST_LAST_MEMBER_CNT, IFLA_BR_MCAST_STARTUP_QUERY_CNT, IFLA_BR_ROOT_PATH_COST,
    IFLA_BR_PRIORITY, IFLA_BR_VLAN_PROTOCOL, IFLA_BR_GROUP_FWD_MASK, IFLA_BR_ROOT_ID,
    IFLA_BR_BRIDGE_ID, IFLA_BR_GROUP_ADDR, IFLA_BR_ROOT_PORT, IFLA_BR_VLAN_DEFAULT_PVID,
    IFLA_BR_VLAN_FILTERING, IFLA_BR_TOPOLOGY_CHANGE, IFLA_BR_TOPOLOGY_CHANGE_DETECTED,
    IFLA_BR_MCAST_ROUTER, IFLA_BR_MCAST_SNOOPING, IFLA_BR_MCAST_QUERY_USE_IFADDR,
    IFLA_BR_MCAST_QUERIER, IFLA_BR_NF_CALL_IPTABLES, IFLA_BR_NF_CALL_IP6TABLES,
    IFLA_BR_NF_CALL_ARPTABLES, IFLA_BR_VLAN_STATS_ENABLED, IFLA_BR_MCAST_STATS_ENABLED,
    IFLA_BR_MCAST_IGMP_VERSION, IFLA_BR_MCAST_MLD_VERSION, IFLA_BR_VLAN_STATS_PER_PORT,
    IFLA_BR_MULTI_BOOLOPT, IFLA_BR_MCAST_QUERIER_STATE]

/-- Enumerations are canonical, and an unknown attribute is of none of the
kinds the decoder names. -/
def Canonical : InfoBridge → Prop
  | .multicastQuerierState l => ∀ i ∈ l, i.Canonical
  | .other n => n.Unknown kinds
  | _ => True

/-- A canonical attribute of a bridge comes back, nested lists within their
length word included. -/
theorem roundTrips (h : a.Canonical) (hs : a.valueLen ≤ 65531) : RoundTrips parse a.nla a := by
  cases a with
  | groupAddr _ => exact writes_octets.roundTrips_arm IFLA_BR_GROUP_ADDR rfl rfl (by simp)
  | fdbFlush => exact writes_skip.roundTrips_arm IFLA_BR_FDB_FLUSH rfl rfl (by simp)
  | helloTimer _ => exact writes_u64.roundTrips_arm IFLA_BR_HELLO_TIMER rfl rfl (by simp)
  | tcnTimer _ => exact writes_u64.roundTrips_arm IFLA_BR_TCN_TIMER rfl rfl (by simp)
  | topologyChangeTimer _ =>
    exact writes_u64.roundTrips_arm IFLA_BR_TOPOLOGY_CHANGE_TIMER rfl rfl (by simp)
  | gcTimer _ => exact writes_u64.roundTrips_arm IFLA_BR_GC_TIMER rfl rfl (by simp)
  | multicastMembershipInterval _ =>
    exact writes_u64.roundTrips_arm IFLA_BR_MCAST_MEMBERSHIP_INTVL rfl rfl (by simp)
  | multicastQuerierInterval _ =>
    exact writes_u64.roundTrips_arm IFLA_BR_MCAST_QUERIER_INTVL rfl rfl (by simp)
  | multicastQueryInterval _ =>
    exact writes_u64.roundTrips_arm IFLA_BR_MCAST_QUERY_INTVL rfl rfl (by simp)
  | multicastQueryResponseInterval _ =>
    exact writes_u64.roundTrips_arm IFLA_BR_MCAST_QUERY_RESPONSE_INTVL rfl rfl (by simp)
  | multicastLastMemberInterval _ =>
    exact writes_u64.roundTrips_arm IFLA_BR_MCAST_LAST_MEMBER_INTVL rfl rfl (by simp)
  | multicastStartupQueryInterval _ =>
    exact writes_u64.roundTrips_arm IFLA_BR_MCAST_STARTUP_QUERY_INTVL rfl rfl (by simp)
  | forwardDelay _ => exact writes_u32.roundTrips_arm IFLA_BR_FORWARD_DELAY rfl rfl (by simp)
  | helloTime _ => exact writes_u32.roundTrips_arm IFLA_BR_HELLO_TIME rfl rfl (by simp)
  | maxAge _ => exact writes_u32.roundTrips_arm IFLA_BR_MAX_AGE rfl rfl (by simp)
  | ageingTime _ => exact writes_u32.roundTrips_arm IFLA_BR_AGEING_TIME rfl rfl (by simp)
  | stpState _ => exact writes_u32.roundTrips_arm IFLA_BR_STP_STATE rfl rfl (by simp)
  | multicastHashElasticity _ =>
    exact writes_u32.roundTrips_arm IFLA_BR_MCAST_HASH_ELASTICITY rfl rfl (by simp)
  | multicastHashMax _ => exact writes_u32.roundTrips_arm IFLA_BR_MCAST_HASH_MAX rfl rfl (by simp)
  | multicastLastMemberCount _ =>
    exact writes_u32.roundTrips_arm IFLA_BR_MCAST_LAST_MEMBER_CNT rfl rfl (by simp)
  | multicastStartupQueryCount _ =>
    exact writes_u32.roundTrips_arm IFLA_BR_MCAST_STARTUP_QUERY_CNT rfl rfl (by simp)
  | rootPathCost _ => exact writes_u32.roundTrips_arm IFLA_BR_ROOT_PATH_COST rfl rfl (by simp)
  | priority _ => exact writes_u16.roundTrips_arm IFLA_BR_PRIORITY rfl rfl (by simp)
  | vlanProtocol _ => exact writes_u16Be.roundTrips_arm IFLA_BR_VLAN_PROTOCOL rfl rfl (by simp)
  | groupFwdMask _ => exact writes_u16.roundTrips_arm IFLA_BR_GROUP_FWD_MASK rfl rfl (by simp)
  | rootId _ => exact BridgeId.codec.writes_emit.roundTrips_arm IFLA_BR_ROOT_ID rfl rfl (by simp)
  | bridgeId _ =>
    exact BridgeId.codec.writes_emit.roundTrips_arm IFLA_BR_BRIDGE_ID rfl rfl (by simp)
  | rootPort _ => exact writes_u16.roundTrips_arm IFLA_BR_ROOT_PORT rfl rfl (by simp)
  | vlanDefaultPvid _ => exact writes_u16.roundTrips_arm IFLA_BR_VLAN_DEFAULT_PVID rfl rfl (by simp)
  | vlanFiltering _ => exact writes_u8.roundTrips_arm IFLA_BR_VLAN_FILTERING rfl rfl (by simp)
  | topologyChange _ => exact writes_u8.roundTrips_arm IFLA_BR_TOPOLOGY_CHANGE rfl rfl (by simp)
  | topologyChangeDetected _ =>
    exact writes_u8.roundTrips_arm IFLA_BR_TOPOLOGY_CHANGE_DETECTED rfl rfl (by simp)
  | multicastRouter _ => exact writes_u8.roundTrips_arm IFLA_BR_MCAST_ROUTER rfl rfl (by simp)
  | multicastSnooping _ => exact writes_u8.roundTrips_arm IFLA_BR_MCAST_SNOOPING rfl rfl (by simp)
  | multicastQueryUseIfaddr _ =>
    exact writes_u8.roundTrips_arm IFLA_BR_MCAST_QUERY_USE_IFADDR rfl rfl (by simp)
  | multicastQuerier _ => exact writes_u8.roundTrips_arm IFLA_BR_MCAST_QUERIER rfl rfl (by simp)
  | nfCallIpTables _ => exact writes_u8.roundTrips_arm IFLA_BR_NF_CALL_IPTABLES rfl rfl (by simp)
  | nfCallIp6Tables _ => exact writes_u8.roundTrips_arm IFLA_BR_NF_CALL_IP6TABLES rfl rfl (by simp)
  | nfCallArpTables _ => exact writes_u8.roundTrips_arm IFLA_BR_NF_CALL_ARPTABLES rfl rfl (by simp)
  | vlanStatsEnabled _ =>
    exact writes_u8.roundTrips_arm IFLA_BR_VLAN_STATS_ENABLED rfl rfl (by simp)
  | multicastStatsEnabled _ =>
    exact writes_u8.roundTrips_arm IFLA_BR_MCAST_STATS_ENABLED rfl rfl (by simp)
  | multicastIgmpVersion _ =>
    exact writes_u8.roundTrips_arm IFLA_BR_MCAST_IGMP_VERSION rfl rfl (by simp)
  | multicastMldVersion _ =>
    exact writes_u8.roundTrips_arm IFLA_BR_MCAST_MLD_VERSION rfl rfl (by simp)
  | vlanStatsPerHost _ =>
    exact writes_u8.roundTrips_arm IFLA_BR_VLAN_STATS_PER_PORT rfl rfl (by simp)
  | multiBoolOpt _ => exact writes_u64.roundTrips_arm IFLA_BR_MULTI_BOOLOPT rfl rfl (by simp)
  | multicastQuerierState l =>
    obtain ⟨out, hout, hread⟩ := exists_readsAs (r := id) (t := BridgeQuerierState.nla)
      (fun i hi _ => BridgeQuerierState.roundTrips (h i hi)) hs
    exact .of_arm hout (IFLA_BR_MCAST_QUERIER_STATE ||| NLA_F_NESTED) rfl rfl
      (by simp [hread.parseNlas_eq])
  | other n => exact .of_default h

/-- The parser of a bridge gives canonical attributes only. -/
theorem holds_parse (hv : NlaValid nb.buffer) : (parse nb).Holds Canonical := by
  have hquerier : ∀ err err', (parseNlas err err' BridgeQuerierState.parse
      (nlaValue nb.buffer)).Holds fun l => ∀ i ∈ l, i.Canonical := fun _ _ =>
    holds_parseNlas fun _ hnb => BridgeQuerierState.holds_parse (valid_of_mem_nlas hnb)
  exact hv.holds_parse (by simp [Canonical, hquerier]) fun _ hk => hk

end InfoBridge

/-! ## Ports of a bridge -/

namespace InfoBridgePort

variable {a : InfoBridgePort} {nb : NlaBuffer}

/-- The kinds the decoder names. -/
def kinds : List UInt16 :=
  [IFLA_BRPORT_STATE, IFLA_BRPORT_PRIORITY, IFLA_BRPORT_COST, IFLA_BRPORT_MODE, IFLA_BRPORT_GUARD,
    IFLA_BRPORT_PROTECT, IFLA_BRPORT_FAST_LEAVE, IFLA_BRPORT_LEARNING, IFLA_BRPORT_UNICAST_FLOOD,
    IFLA_BRPORT_PROXYARP, IFLA_BRPORT_PROXYARP_WIFI, IFLA_BRPORT_ROOT_ID, IFLA_BRPORT_BRIDGE_ID,
    IFLA_BRPORT_DESIGNATED_PORT, IFLA_BRPORT_DESIGNATED_COST, IFLA_BRPORT_ID, IFLA_BRPORT_NO,
    IFLA_BRPORT_TOPOLOGY_CHANGE_ACK, IFLA_BRPORT_CONFIG_PENDING, IFLA_BRPORT_MESSAGE_AGE_TIMER,
    IFLA_BRPORT_FORWARD_DELAY_TIMER, IFLA_BRPORT_HOLD_TIMER, IFLA_BRPORT_FLUSH,
    IFLA_BRPORT_MULTICAST_ROUTER, IFLA_BRPORT_MCAST_FLOOD, IFLA_BRPORT_MCAST_TO_UCAST,
    IFLA_BRPORT_VLAN_TUNNEL, IFLA_BRPORT_BCAST_FLOOD, IFLA_BRPORT_GROUP_FWD_MASK,
    IFLA_BRPORT_NEIGH_SUPPRESS, IFLA_BRPORT_ISOLATED, IFLA_BRPORT_BACKUP_PORT,
    IFLA_BRPORT_MRP_RING_OPEN, IFLA_BRPORT_MRP_IN_OPEN, IFLA_BRPORT_MCAST_EHT_HOSTS_LIMIT,
    IFLA_BRPORT_MCAST_EHT_HOSTS_CNT, IFLA_BRPORT_LOCKED, IFLA_BRPORT_MAB,
    IFLA_BRPORT_MCAST_N_GROUPS, IFLA_BRPORT_MCAST_MAX_GROUPS, IFLA_BRPORT_NEIGH_VLAN_SUPPRESS,
    IFLA_BRPORT_BACKUP_NHID]

/-- Enumerations are canonical, and an unknown attribute is of none of the
kinds the decoder names. -/
def Canonical : InfoBridgePort → Prop
  | .state v => BridgePortState.codec.Canonical v
  | .multicastRouter v => BridgePortMulticastRouter.codec.Canonical v
  | .other n => n.Unknown kinds
  | _ => True

/-- A canonical attribute of a bridge port comes back. -/
theorem roundTrips (h : a.Canonical) : RoundTrips parse a.nla a := by
  cases a with
  | state _ =>
    exact writes_u8.roundTrips_arm IFLA_BRPORT_STATE rfl rfl
      (by simp [EnumCodec.Canonical.ofNum_toNum h])
  | priority _ => exact writes_u16.roundTrips_arm IFLA_BRPORT_PRIORITY rfl rfl (by simp)
  | cost _ => exact writes_u32.roundTrips_arm IFLA_BRPORT_COST rfl rfl (by simp)
  | hairpinMode _ => exact writes_u8.roundTrips_arm IFLA_BRPORT_MODE rfl rfl (by simp)
  | guard _ => exact writes_u8.roundTrips_arm IFLA_BRPORT_GUARD rfl rfl (by simp)
  | protect _ => exact writes_u8.roundTrips_arm IFLA_BRPORT_PROTECT rfl rfl (by simp)
  | fastLeave _ => exact writes_u8.roundTrips_arm IFLA_BRPORT_FAST_LEAVE rfl rfl (by simp)
  | learning _ => exact writes_u8.roundTrips_arm IFLA_BRPORT_LEARNING rfl rfl (by simp)
  | unicastFlood _ => exact writes_u8.roundTrips_arm IFLA_BRPORT_UNICAST_FLOOD rfl rfl (by simp)
  | proxyARP _ => exact writes_u8.roundTrips_arm IFLA_BRPORT_PROXYARP rfl rfl (by simp)
  | proxyARPWifi _ => exact writes_u8.roundTrips_arm IFLA_BRPORT_PROXYARP_WIFI rfl rfl (by simp)
  | rootId _ =>
    exact BridgeId.codec.writes_emit.roundTrips_arm IFLA_BRPORT_ROOT_ID rfl rfl (by simp)
  | bridgeId _ =>
    exact BridgeId.codec.writes_emit.roundTrips_arm IFLA_BRPORT_BRIDGE_ID rfl rfl (by simp)
  | designatedPort _ =>
    exact writes_u16.roundTrips_arm IFLA_BRPORT_DESIGNATED_PORT rfl rfl (by simp)
  | designatedCost _ =>
    exact writes_u16.roundTrips_arm IFLA_BRPORT_DESIGNATED_COST rfl rfl (by simp)
  | portId _ => exact writes_u16.roundTrips_arm IFLA_BRPORT_ID rfl rfl (by simp)
  | portNumber _ => exact writes_u16.roundTrips_arm IFLA_BRPORT_NO rfl rfl (by simp)
  | topologyChangeAck _ =>
    exact writes_u8.roundTrips_arm IFLA_BRPORT_TOPOLOGY_CHANGE_ACK rfl rfl (by simp)
  | configPending _ => exact writes_u8.roundTrips_arm IFLA_BRPORT_CONFIG_PENDING rfl rfl (by simp)
  | messageAgeTimer _ =>
    exact writes_u64.roundTrips_arm IFLA_BRPORT_MESSAGE_AGE_TIMER rfl rfl (by simp)
  | forwardDelayTimer _ =>
    exact writes_u64.roundTrips_arm IFLA_BRPORT_FORWARD_DELAY_TIMER rfl rfl (by simp)
  | holdTimer _ => exact writes_u64.roundTrips_arm IFLA_BRPORT_HOLD_TIMER rfl rfl (by simp)
  | flush => exact writes_skip.roundTrips_arm IFLA_BRPORT_FLUSH rfl rfl (by simp)
  | multicastRouter _ =>
    exact writes_u8.roundTrips_arm IFLA_BRPORT_MULTICAST_ROUTER rfl rfl
      (by simp [EnumCodec.Canonical.ofNum_toNum h])
  | multicastFlood _ => exact writes_u8.roundTrips_arm IFLA_BRPORT_MCAST_FLOOD rfl rfl (by simp)
  | multicastToUnicast _ =>
    exact writes_u8.roundTrips_arm IFLA_BRPORT_MCAST_TO_UCAST rfl rfl (by simp)
  | vlanTunnel _ => exact writes_u8.roundTrips_arm IFLA_BRPORT_VLAN_TUNNEL rfl rfl (by simp)
  | broadcastFlood _ => exact writes_u8.roundTrips_arm IFLA_BRPORT_BCAST_FLOOD rfl rfl (by simp)
  | groupFwdMask _ => exact writes_u16.roundTrips_arm IFLA_BRPORT_GROUP_FWD_MASK rfl rfl (by simp)
  | neighSupress _ => exact writes_u8.roundTrips_arm IFLA_BRPORT_NEIGH_SUPPRESS rfl rfl (by simp)
  | isolated _ => exact writes_u8.roundTrips_arm IFLA_BRPORT_ISOLATED rfl rfl (by simp)
  | backupPort _ => exact writes_u32.roundTrips_arm IFLA_BRPORT_BACKUP_PORT rfl rfl (by simp)
  | mrpRingOpen _ => exact writes_u8.roundTrips_arm IFLA_BRPORT_MRP_RING_OPEN rfl rfl (by simp)
  | mrpInOpen _ => exact writes_u8.roundTrips_arm IFLA_BRPORT_MRP_IN_OPEN rfl rfl (by simp)
  | multicastEhtHostsLimit _ =>
    exact writes_u32.roundTrips_arm IFLA_BRPORT_MCAST_EHT_HOSTS_LIMIT rfl rfl (by simp)
  | multicastEhtHostsCnt _ =>
    exact writes_u32.roundTrips_arm IFLA_BRPORT_MCAST_EHT_HOSTS_CNT rfl rfl (by simp)
  | locked _ => exact writes_u8.roundTrips_arm IFLA_BRPORT_LOCKED rfl rfl (by simp)
  | mab _ => exact writes_u8.roundTrips_arm IFLA_BRPORT_MAB rfl rfl (by simp)
  | multicastNGroups _ =>
    exact writes_u32.roundTrips_arm IFLA_BRPORT_MCAST_N_GROUPS rfl rfl (by simp)
  | multicastMaxGroups _ =>
    exact writes_u32.roundTrips_arm IFLA_BRPORT_MCAST_MAX_GROUPS rfl rfl (by simp)
  | neighVlanSupress _ =>
    exact writes_u8.roundTrips_arm IFLA_BRPORT_NEIGH_VLAN_SUPPRESS rfl rfl (by simp)
  | backupNextHopId _ => exact writes_u32.roundTrips_arm IFLA_BRPORT_BACKUP_NHID rfl rfl (by simp)
  | other n => exact .of_default h

/-- The parser of a bridge port gives canonical attributes only. -/
theorem holds_parse (hv : NlaValid nb.buffer) : (parse nb).Holds Canonical :=
  hv.holds_parse (by simp [Canonical]) fun _ hk => hk

end InfoBridgePort

end

end NetlinkRoute
