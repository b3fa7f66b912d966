import NetlinkRoute.Common.Message
import NetlinkRoute.Common.Enum
import NetlinkRoute.Family
/-!
# Link — bridges and their ports

The attributes that a bridge keeps about itself and about each of its
ports. A bridge identifier is read through an unchecked buffer.
-/

namespace NetlinkRoute

open PacketUtils Emitter

section

variable [PacketUtils]

/-! ## Identifiers -/

/-- `BridgeId`. -/
structure BridgeId where
  priority : UInt16
  address : Octets 6
deriving DecidableEq

/-- `BridgeIdBuffer`. The priority stands in network order. -/
def BridgeId.codec : StructCodec BridgeId where
  len := 8
  parse buf := do
    let priority ← getU16Be buf 0
    let address ← (parseMac (← slice buf 2 8)).context "invalid MAC address in BridgeId buffer"
    return { priority, address }
  layout v := [(0, be.u16 v.priority), (2, v.address.val)]
  tiles v := by simp [Tiles]
  length_layout v := by simp [v.address.property]
  parse_layout v rest := by
    have hmac : slice (be.u16 v.priority ++ (v.address.val ++ rest)) 2 8 = .ok v.address.val := by
      rw [slice_append_right (by simp) (by decide), length_u16]
      exact slice_append_left (by simp [v.address.property])
    simp [hmac, parseMac_spec.ok _ v.address.property]
  parse_of_le b h := by
    have hlen : ((b.drop 2).take 6).length = 6 :=
      List.length_take_of_le (List.length_drop ▸ Nat.le_sub_of_add_le h)
    rw [getU16Be_of_le (fits_of_le h rfl), slice_ok (by decide) (fits_of_le h rfl)]
    simp only [Outcome.ok_bind, parseMac_spec.ok _ hlen, Outcome.context_ok, Outcome.pure_eq]
    exact ⟨_, rfl⟩

/-! ## Bridges -/

abbrev BRIDGE_QUERIER_IP_ADDRESS : UInt16 := 1
abbrev BRIDGE_QUERIER_IP_PORT : UInt16 := 2
abbrev BRIDGE_QUERIER_IP_OTHER_TIMER : UInt16 := 3
abbrev BRIDGE_QUERIER_IPV6_ADDRESS : UInt16 := 5
abbrev BRIDGE_QUERIER_IPV6_PORT : UInt16 := 6
abbrev BRIDGE_QUERIER_IPV6_OTHER_TIMER : UInt16 := 7

/-- `BridgeQuerierState`. -/
inductive BridgeQuerierState where
  | ipv4Address (v : Ipv4Addr)
  | ipv4Port (v : UInt32)
  | ipv4OtherTimer (v : UInt64)
  | ipv6Address (v : Ipv6Addr)
  | ipv6Port (v : UInt32)
  | ipv6OtherTimer (v : UInt64)
  | other (v : DefaultNla)
deriving DecidableEq

namespace BridgeQuerierState

def kind : BridgeQuerierState → UInt16
  | .ipv4Address _ => BRIDGE_QUERIER_IP_ADDRESS
  | .ipv4Port _ => BRIDGE_QUERIER_IP_PORT
  | .ipv4OtherTimer _ => BRIDGE_QUERIER_IP_OTHER_TIMER
  | .ipv6Address _ => BRIDGE_QUERIER_IPV6_ADDRESS
  | .ipv6Port _ => BRIDGE_QUERIER_IPV6_PORT
  | .ipv6OtherTimer _ => BRIDGE_QUERIER_IPV6_OTHER_TIMER
  | .other nla => nla.kind

def valueLen : BridgeQuerierState → ℕ
  | .ipv4Address _ => 4
  | .ipv6Address _ => 16
  | .ipv4Port _ | .ipv6Port _ => 4
  | .ipv4OtherTimer _ | .ipv6OtherTimer _ => 8
  | .other nla => nla.valueLen

def emitValue : BridgeQuerierState → Emitter
  | .ipv4Port d | .ipv6Port d => .put 0 (ne.u32 d)
  | .ipv4OtherTimer d | .ipv6OtherTimer d => .put 0 (ne.u64 d)
  | .ipv4Address addr => .copy addr.val
  | .ipv6Address addr => .copy addr.val
  | .other nla => nla.emitValue

/-- The attribute, as the attribute layer sees it. -/
def nla (a : BridgeQuerierState) : Nla := ⟨a.valueLen, a.kind, a.emitValue⟩

def parse (buf : NlaBuffer) : Outcome BridgeQuerierState := do
  let payload ← value buf
  let kind ← PacketUtils.kind buf
  select kind [
    (BRIDGE_QUERIER_IP_ADDRESS,
      match parseIp payload with
      | .ok (.v4 addr) => .ok (.ipv4Address addr)
      | .ok ip =>
        .fail ("Invalid BRIDGE_QUERIER_IP_ADDRESS, expecting IPv4 address, but got " ++ ip.display)
      | .err e => .fail ("Invalid BRIDGE_QUERIER_IP_ADDRESS " ++ e.display)
      | .panic => .panic),
    (BRIDGE_QUERIER_IPV6_ADDRESS,
      match parseIp payload with
      | .ok (.v6 addr) => .ok (.ipv6Address addr)
      | .ok ip =>
        .fail ("Invalid BRIDGE_QUERIER_IPV6_ADDRESS, expecting IPv6 address, but got " ++
          ip.display)
      | .err e => .fail ("Invalid BRIDGE_QUERIER_IPV6_ADDRESS " ++ e.display)
      | .panic => .panic),
    (BRIDGE_QUERIER_IP_PORT,
      .ipv4Port <$> (parseU32 payload).context "invalid BRIDGE_QUERIER_IP_PORT value"),
    (BRIDGE_QUERIER_IPV6_PORT,
      .ipv6Port <$> (parseU32 payload).context "invalid BRIDGE_QUERIER_IPV6_PORT value"),
    (BRIDGE_QUERIER_IP_OTHER_TIMER,
      .ipv4OtherTimer <$>
        (parseU64 payload).context "invalid BRIDGE_QUERIER_IP_OTHER_TIMER value"),
    (BRIDGE_QUERIER_IPV6_OTHER_TIMER,
      .ipv6OtherTimer <$>
        (parseU64 payload).context "invalid BRIDGE_QUERIER_IPV6_OTHER_TIMER value")]
    (.other <$> (defaultNla buf).context ("unknown NLA type " ++ toString kind))

end BridgeQuerierState

abbrev IFLA_BR_FORWARD_DELAY : UInt16 := 1
abbrev IFLA_BR_HELLO_TIME : UInt16 := 2
abbrev IFLA_BR_MAX_AGE : UInt16 := 3
abbrev IFLA_BR_AGEING_TIME : UInt16 := 4
abbrev IFLA_BR_STP_STATE : UInt16 := 5
abbrev IFLA_BR_PRIORITY : UInt16 := 6
abbrev IFLA_BR_VLAN_FILTERING : UInt16 := 7
abbrev IFLA_BR_VLAN_PROTOCOL : UInt16 := 8
abbrev IFLA_BR_GROUP_FWD_MASK : UInt16 := 9
abbrev IFLA_BR_ROOT_ID : UInt16 := 10
abbrev IFLA_BR_BRIDGE_ID : UInt16 := 11
abbrev IFLA_BR_ROOT_PORT : UInt16 := 12
abbrev IFLA_BR_ROOT_PATH_COST : UInt16 := 13
abbrev IFLA_BR_TOPOLOGY_CHANGE : UInt16 := 14
abbrev IFLA_BR_TOPOLOGY_CHANGE_DETECTED : UInt16 := 15
abbrev IFLA_BR_HELLO_TIMER : UInt16 := 16
abbrev IFLA_BR_TCN_TIMER : UInt16 := 17
abbrev IFLA_BR_TOPOLOGY_CHANGE_TIMER : UInt16 := 18
abbrev IFLA_BR_GC_TIMER : UInt16 := 19
abbrev IFLA_BR_GROUP_ADDR : UInt16 := 20
abbrev IFLA_BR_FDB_FLUSH : UInt16 := 21
abbrev IFLA_BR_MCAST_ROUTER : UInt16 := 22
abbrev IFLA_BR_MCAST_SNOOPING : UInt16 := 23
abbrev IFLA_BR_MCAST_QUERY_USE_IFADDR : UInt16 := 24
abbrev IFLA_BR_MCAST_QUERIER : UInt16 := 25
abbrev IFLA_BR_MCAST_HASH_ELASTICITY : UInt16 := 26
abbrev IFLA_BR_MCAST_HASH_MAX : UInt16 := 27
abbrev IFLA_BR_MCAST_LAST_MEMBER_CNT : UInt16 := 28
abbrev IFLA_BR_MCAST_STARTUP_QUERY_CNT : UInt16 := 29
abbrev IFLA_BR_MCAST_LAST_MEMBER_INTVL : UInt16 := 30
abbrev IFLA_BR_MCAST_MEMBERSHIP_INTVL : UInt16 := 31
abbrev IFLA_BR_MCAST_QUERIER_INTVL : UInt16 := 32
abbrev IFLA_BR_MCAST_QUERY_INTVL : UInt16 := 33
abbrev IFLA_BR_MCAST_QUERY_RESPONSE_INTVL : UInt16 := 34
abbrev IFLA_BR_MCAST_STARTUP_QUERY_INTVL : UInt16 := 35
abbrev IFLA_BR_NF_CALL_IPTABLES : UInt16 := 36
abbrev IFLA_BR_NF_CALL_IP6TABLES : UInt16 := 37
abbrev IFLA_BR_NF_CALL_ARPTABLES : UInt16 := 38
abbrev IFLA_BR_VLAN_DEFAULT_PVID : UInt16 := 39
abbrev IFLA_BR_VLAN_STATS_ENABLED : UInt16 := 41
abbrev IFLA_BR_MCAST_STATS_ENABLED : UInt16 := 42
abbrev IFLA_BR_MCAST_IGMP_VERSION : UInt16 := 43
abbrev IFLA_BR_MCAST_MLD_VERSION : UInt16 := 44
abbrev IFLA_BR_VLAN_STATS_PER_PORT : UInt16 := 45
abbrev IFLA_BR_MULTI_BOOLOPT : UInt16 := 46
abbrev IFLA_BR_MCAST_QUERIER_STATE : UInt16 := 47

/-- `InfoBridge`. -/
inductive InfoBridge where
  | groupAddr (v : Octets 6)
  | fdbFlush
  | helloTimer (v : UInt64)
  | tcnTimer (v : UInt64)
  | topologyChangeTimer (v : UInt64)
  | gcTimer (v : UInt64)
  | multicastMembershipInterval (v : UInt64)
  | multicastQuerierInterval (v : UInt64)
  | multicastQueryInterval (v : UInt64)
  | multicastQueryResponseInterval (v : UInt64)
  | multicastLastMemberInterval (v : UInt64)
  | multicastStartupQueryInterval (v : UInt64)
  | forwardDelay (v : UInt32)
  | helloTime (v : UInt32)
  | maxAge (v : UInt32)
  | ageingTime (v : UInt32)
  | stpState (v : UInt32)
  | multicastHashElasticity (v : UInt32)
  | multicastHashMax (v : UInt32)
  | multicastLastMemberCount (v : UInt32)
  | multicastStartupQueryCount (v : UInt32)
  | rootPathCost (v : UInt32)
  | priority (v : UInt16)
  | vlanProtocol (v : UInt16)
  | groupFwdMask (v : UInt16)
  | rootId (v : BridgeId)
  | bridgeId (v : BridgeId)
  | rootPort (v : UInt16)
  | vlanDefaultPvid (v : UInt16)
  | vlanFiltering (v : Bool)
  | topologyChange (v : UInt8)
  | topologyChangeDetected (v : UInt8)
  | multicastRouter (v : UInt8)
  | multicastSnooping (v : UInt8)
  | multicastQueryUseIfaddr (v : UInt8)
  | multicastQuerier (v : UInt8)
  | nfCallIpTables (v : UInt8)
  | nfCallIp6Tables (v : UInt8)
  | nfCallArpTables (v : UInt8)
  | vlanStatsEnabled (v : UInt8)
  | multicastStatsEnabled (v : UInt8)
  | multicastIgmpVersion (v : UInt8)
  | multicastMldVersion (v : UInt8)
  | vlanStatsPerHost (v : UInt8)
  | multiBoolOpt (v : UInt64)
  | multicastQuerierState (v : List BridgeQuerierState)
  | other (v : DefaultNla)
deriving DecidableEq

namespace InfoBridge

def kind : InfoBridge → UInt16
  | .groupAddr _ => IFLA_BR_GROUP_ADDR
  | .fdbFlush => IFLA_BR_FDB_FLUSH
  | .helloTimer _ => IFLA_BR_HELLO_TIMER
  | .tcnTimer _ => IFLA_BR_TCN_TIMER
  | .topologyChangeTimer _ => IFLA_BR_TOPOLOGY_CHANGE_TIMER
  | .gcTimer _ => IFLA_BR_GC_TIMER
  | .multicastMembershipInterval _ => IFLA_BR_MCAST_MEMBERSHIP_INTVL
  | .multicastQuerierInterval _ => IFLA_BR_MCAST_QUERIER_INTVL
  | .multicastQueryInterval _ => IFLA_BR_MCAST_QUERY_INTVL
  | .multicastQueryResponseInterval _ => IFLA_BR_MCAST_QUERY_RESPONSE_INTVL
  | .forwardDelay _ => IFLA_BR_FORWARD_DELAY
  | .helloTime _ => IFLA_BR_HELLO_TIME
  | .maxAge _ => IFLA_BR_MAX_AGE
  | .ageingTime _ => IFLA_BR_AGEING_TIME
  | .stpState _ => IFLA_BR_STP_STATE
  | .multicastHashElasticity _ => IFLA_BR_MCAST_HASH_ELASTICITY
  | .multicastHashMax _ => IFLA_BR_MCAST_HASH_MAX
  | .multicastLastMemberCount _ => IFLA_BR_MCAST_LAST_MEMBER_CNT
  | .multicastStartupQueryCount _ => IFLA_BR_MCAST_STARTUP_QUERY_CNT
  | .multicastLastMemberInterval _ => IFLA_BR_MCAST_LAST_MEMBER_INTVL
  | .multicastStartupQueryInterval _ => IFLA_BR_MCAST_STARTUP_QUERY_INTVL
  | .rootPathCost _ => IFLA_BR_ROOT_PATH_COST
  | .priority _ => IFLA_BR_PRIORITY
  | .vlanProtocol _ => IFLA_BR_VLAN_PROTOCOL
  | .groupFwdMask _ => IFLA_BR_GROUP_FWD_MASK
  | .rootId _ => IFLA_BR_ROOT_ID
  | .bridgeId _ => IFLA_BR_BRIDGE_ID
  | .rootPort _ => IFLA_BR_ROOT_PORT
  | .vlanDefaultPvid _ => IFLA_BR_VLAN_DEFAULT_PVID
  | .vlanFiltering _ => IFLA_BR_VLAN_FILTERING
  | .topologyChange _ => IFLA_BR_TOPOLOGY_CHANGE
  | .topologyChangeDetected _ => IFLA_BR_TOPOLOGY_CHANGE_DETECTED
  | .multicastRouter _ => IFLA_BR_MCAST_ROUTER
  | .multicastSnooping _ => IFLA_BR_MCAST_SNOOPING
  | .multicastQueryUseIfaddr _ => IFLA_BR_MCAST_QUERY_USE_IFADDR
  | .multicastQuerier _ => IFLA_BR_MCAST_QUERIER
  | .nfCallIpTables _ => IFLA_BR_NF_CALL_IPTABLES
  | .nfCallIp6Tables _ => IFLA_BR_NF_CALL_IP6TABLES
  | .nfCallArpTables _ => IFLA_BR_NF_CALL_ARPTABLES
  | .vlanStatsEnabled _ => IFLA_BR_VLAN_STATS_ENABLED
  | .multicastStatsEnabled _ => IFLA_BR_MCAST_STATS_ENABLED
  | .multicastIgmpVersion _ => IFLA_BR_MCAST_IGMP_VERSION
  | .multicastMldVersion _ => IFLA_BR_MCAST_MLD_VERSION
  | .vlanStatsPerHost _ => IFLA_BR_VLAN_STATS_PER_PORT
  | .multiBoolOpt _ => IFLA_BR_MULTI_BOOLOPT
  | .multicastQuerierState _ => IFLA_BR_MCAST_QUERIER_STATE ||| NLA_F_NESTED
  | .other nla => nla.kind

def valueLen : InfoBridge → ℕ
  | .fdbFlush => 0
  | .helloTimer _ | .tcnTimer _ | .topologyChangeTimer _ | .gcTimer _
  | .multicastMembershipInterval _ | .multicastQuerierInterval _ | .multicastQueryInterval _
  | .multicastQueryResponseInterval _ | .multicastLastMemberInterval _
  | .multicastStartupQueryInterval _ => 8
  | .forwardDelay _ | .helloTime _ | .maxAge _ | .ageingTime _ | .stpState _
  | .multicastHashElasticity _ | .multicastHashMax _ | .multicastLastMemberCount _
  | .multicastStartupQueryCount _ | .rootPathCost _ => 4
  | .priority _ | .vlanProtocol _ | .groupFwdMask _ | .rootPort _ | .vlanDefaultPvid _ => 2
  | .rootId _ | .bridgeId _ | .multiBoolOpt _ => 8
  | .groupAddr _ => 6
  | .vlanFiltering _ => 1
  | .topologyChange _ | .topologyChangeDetected _ | .multicastRouter _ | .multicastSnooping _
  | .multicastQueryUseIfaddr _ | .multicastQuerier _ | .nfCallIpTables _ | .nfCallIp6Tables _
  | .nfCallArpTables _ | .vlanStatsEnabled _ | .multicastStatsEnabled _ | .multicastIgmpVersion _
  | .multicastMldVersion _ | .vlanStatsPerHost _ => 1
  | .multicastQuerierState nlas => nlasLen (nlas.map BridgeQuerierState.nla)
  | .other nla => nla.valueLen

def emitValue : InfoBridge → Emitter
  | .fdbFlush => .skip
  | .helloTimer value | .tcnTimer value | .topologyChangeTimer value | .gcTimer value
  | .multicastMembershipInterval value | .multicastQuerierInterval value
  | .multicastQueryInterval value | .multicastQueryResponseInterval value
  | .multicastLastMemberInterval value | .multicastStartupQueryInterval value
  | .multiBoolOpt value => .put 0 (ne.u64 value)
  | .forwardDelay value | .helloTime value | .maxAge value | .ageingTime value | .stpState value
  | .multicastHashElasticity value | .multicastHashMax value | .multicastLastMemberCount value
  | .multicastStartupQueryCount value | .rootPathCost value => .put 0 (ne.u32 value)
  | .priority value | .groupFwdMask value | .rootPort value | .vlanDefaultPvid value =>
    .put 0 (ne.u16 value)
  | .vlanProtocol value => .put 0 (be.u16 value)
  | .rootId bridge_id | .bridgeId bridge_id => BridgeId.codec.emit bridge_id
  | .groupAddr value => .copy value.val
  | .vlanFiltering value => .put 0 [value.toUInt8]
  | .topologyChange value | .topologyChangeDetected value | .multicastRouter value
  | .multicastSnooping value | .multicastQueryUseIfaddr value | .multicastQuerier value
  | .nfCallIpTables value | .nfCallIp6Tables value | .nfCallArpTables value
  | .vlanStatsEnabled value | .multicastStatsEnabled value | .multicastIgmpVersion value
  | .multicastMldVersion value | .vlanStatsPerHost value => .put 0 [value]
  | .multicastQuerierState nlas => emitNlas (nlas.map BridgeQuerierState.nla)
  | .other nla => nla.emitValue

/-- The attribute, as the attribute layer sees it. -/
def nla (a : InfoBridge) : Nla := ⟨a.valueLen, a.kind, a.emitValue⟩

def parse (buf : NlaBuffer) : Outcome InfoBridge := do
  let payload ← value buf
  let kind ← PacketUtils.kind buf
  select kind [
    (IFLA_BR_FDB_FLUSH, .ok .fdbFlush),
    (IFLA_BR_HELLO_TIMER,
      .helloTimer <$> (parseU64 payload).context "invalid IFLA_BR_HELLO_TIMER value"),
    (IFLA_BR_TCN_TIMER,
      .tcnTimer <$> (parseU64 payload).context "invalid IFLA_BR_TCN_TIMER value"),
    (IFLA_BR_TOPOLOGY_CHANGE_TIMER,
      .topologyChangeTimer <$>
        (parseU64 payload).context "invalid IFLA_BR_TOPOLOGY_CHANGE_TIMER value"),
    (IFLA_BR_GC_TIMER, .gcTimer <$> (parseU64 payload).context "invalid IFLA_BR_GC_TIMER value"),
    (IFLA_BR_MCAST_LAST_MEMBER_INTVL,
      .multicastLastMemberInterval <$>
        (parseU64 payload).context "invalid IFLA_BR_MCAST_LAST_MEMBER_INTVL value"),
    (IFLA_BR_MCAST_MEMBERSHIP_INTVL,
      .multicastMembershipInterval <$>
        (parseU64 payload).context "invalid IFLA_BR_MCAST_MEMBERSHIP_INTVL value"),
    (IFLA_BR_MCAST_QUERIER_INTVL,
      .multicastQuerierInterval <$>
        (parseU64 payload).context "invalid IFLA_BR_MCAST_QUERIER_INTVL value"),
    (IFLA_BR_MCAST_QUERY_INTVL,
      .multicastQueryInterval <$>
        (parseU64 payload).context "invalid IFLA_BR_MCAST_QUERY_INTVL value"),
    (IFLA_BR_MCAST_QUERY_RESPONSE_INTVL,
      .multicastQueryResponseInterval <$>
        (parseU64 payload).context "invalid IFLA_BR_MCAST_QUERY_RESPONSE_INTVL value"),
    (IFLA_BR_MCAST_STARTUP_QUERY_INTVL,
      .multicastStartupQueryInterval <$>
        (parseU64 payload).context "invalid IFLA_BR_MCAST_STARTUP_QUERY_INTVL value"),
    (IFLA_BR_FORWARD_DELAY,
      .forwardDelay <$> (parseU32 payload).context "invalid IFLA_BR_FORWARD_DELAY value"),
    (IFLA_BR_HELLO_TIME,
      .helloTime <$> (parseU32 payload).context "invalid IFLA_BR_HELLO_TIME value"),
    (IFLA_BR_MAX_AGE, .maxAge <$> (parseU32 payload).context "invalid IFLA_BR_MAX_AGE value"),
    (IFLA_BR_AGEING_TIME,
      .ageingTime <$> (parseU32 payload).context "invalid IFLA_BR_AGEING_TIME value"),
    (IFLA_BR_STP_STATE,
      .stpState <$> (parseU32 payload).context "invalid IFLA_BR_STP_STATE value"),
    (IFLA_BR_MCAST_HASH_ELASTICITY,
      .multicastHashElasticity <$>
        (parseU32 payload).context "invalid IFLA_BR_MCAST_HASH_ELASTICITY value"),
    (IFLA_BR_MCAST_HASH_MAX,
      .multicastHashMax <$> (parseU32 payload).context "invalid IFLA_BR_MCAST_HASH_MAX value"),
    (IFLA_BR_MCAST_LAST_MEMBER_CNT,
      .multicastLastMemberCount <$>
        (parseU32 payload).context "invalid IFLA_BR_MCAST_LAST_MEMBER_CNT value"),
    (IFLA_BR_MCAST_STARTUP_QUERY_CNT,
      .multicastStartupQueryCount <$>
        (parseU32 payload).context "invalid IFLA_BR_MCAST_STARTUP_QUERY_CNT value"),
    (IFLA_BR_ROOT_PATH_COST,
      .rootPathCost <$> (parseU32 payload).context "invalid IFLA_BR_ROOT_PATH_COST value"),
    (IFLA_BR_PRIORITY, .priority <$> (parseU16 payload).context "invalid IFLA_BR_PRIORITY value"),
    (IFLA_BR_VLAN_PROTOCOL,
      .vlanProtocol <$> (parseU16Be payload).context "invalid IFLA_BR_VLAN_PROTOCOL value"),
    (IFLA_BR_GROUP_FWD_MASK,
      .groupFwdMask <$> (parseU16 payload).context "invalid IFLA_BR_GROUP_FWD_MASK value"),
    (IFLA_BR_ROOT_ID,
      .rootId <$> (BridgeId.codec.parse payload).context "invalid IFLA_BR_ROOT_ID value"),
    (IFLA_BR_BRIDGE_ID,
      .bridgeId <$> (BridgeId.codec.parse payload).context "invalid IFLA_BR_BRIDGE_ID value"),
    (IFLA_BR_GROUP_ADDR,
      .groupAddr <$> (parseMac payload).context "invalid IFLA_BR_GROUP_ADDR value"),
    (IFLA_BR_ROOT_PORT,
      .rootPort <$> (parseU16 payload).context "invalid IFLA_BR_ROOT_PORT value"),
    (IFLA_BR_VLAN_DEFAULT_PVID,
      .vlanDefaultPvid <$> (parseU16 payload).context "invalid IFLA_BR_VLAN_DEFAULT_PVID value"),
    (IFLA_BR_VLAN_FILTERING,
      (fun v => .vlanFiltering (decide (v > 0))) <$>
        (parseU8 payload).context "invalid IFLA_BR_VLAN_FILTERING value"),
    (IFLA_BR_TOPOLOGY_CHANGE,
      .topologyChange <$> (parseU8 payload).context "invalid IFLA_BR_TOPOLOGY_CHANGE value"),
    (IFLA_BR_TOPOLOGY_CHANGE_DETECTED,
      .topologyChangeDetected <$>
        (parseU8 payload).context "invalid IFLA_BR_TOPOLOGY_CHANGE_DETECTED value"),
    (IFLA_BR_MCAST_ROUTER,
      .multicastRouter <$> (parseU8 payload).context "invalid IFLA_BR_MCAST_ROUTER value"),
    (IFLA_BR_MCAST_SNOOPING,
      .multicastSnooping <$> (parseU8 payload).context "invalid IFLA_BR_MCAST_SNOOPING value"),
    (IFLA_BR_MCAST_QUERY_USE_IFADDR,
      .multicastQueryUseIfaddr <$>
        (parseU8 payload).context "invalid IFLA_BR_MCAST_QUERY_USE_IFADDR value"),
    (IFLA_BR_MCAST_QUERIER,
      .multicastQuerier <$> (parseU8 payload).context "invalid IFLA_BR_MCAST_QUERIER value"),
    (IFLA_BR_NF_CALL_IPTABLES,
      .nfCallIpTables <$> (parseU8 payload).context "invalid IFLA_BR_NF_CALL_IPTABLES value"),
    (IFLA_BR_NF_CALL_IP6TABLES,
      .nfCallIp6Tables <$> (parseU8 payload).context "invalid IFLA_BR_NF_CALL_IP6TABLES value"),
    (IFLA_BR_NF_CALL_ARPTABLES,
      .nfCallArpTables <$> (parseU8 payload).context "invalid IFLA_BR_NF_CALL_ARPTABLES value"),
    (IFLA_BR_VLAN_STATS_ENABLED,
      .vlanStatsEnabled <$> (parseU8 payload).context "invalid IFLA_BR_VLAN_STATS_ENABLED value"),
    (IFLA_BR_MCAST_STATS_ENABLED,
      .multicastStatsEnabled <$>
        (parseU8 payload).context "invalid IFLA_BR_MCAST_STATS_ENABLED value"),
    (IFLA_BR_MCAST_IGMP_VERSION,
      .multicastIgmpVersion <$>
        (parseU8 payload).context "invalid IFLA_BR_MCAST_IGMP_VERSION value"),
    (IFLA_BR_MCAST_MLD_VERSION,
      .multicastMldVersion <$>
        (parseU8 payload).context "invalid IFLA_BR_MCAST_MLD_VERSION value"),
    (IFLA_BR_VLAN_STATS_PER_PORT,
      .vlanStatsPerHost <$> (parseU8 payload).context "invalid IFLA_BR_VLAN_STATS_PER_PORT value"),
    (IFLA_BR_MULTI_BOOLOPT,
      .multiBoolOpt <$> (parseU64 payload).context "invalid IFLA_BR_MULTI_BOOLOPT value"),
    (IFLA_BR_MCAST_QUERIER_STATE,
      .multicastQuerierState <$>
        parseNlas "failed to parse IFLA_BR_MCAST_QUERIER_STATE"
          "failed to parse IFLA_BR_MCAST_QUERIER_STATE" BridgeQuerierState.parse payload)]
    (.other <$> (defaultNla buf).context "invalid link info bridge NLA value (unknown type)")

end InfoBridge

/-! ## Ports of a bridge -/

abbrev BR_STATE_DISABLED : UInt8 := 0
abbrev BR_STATE_LISTENING : UInt8 := 1
abbrev BR_STATE_LEARNING : UInt8 := 2
abbrev BR_STATE_FORWARDING : UInt8 := 3
abbrev BR_STATE_BLOCKING : UInt8 := 4

/-- `BridgePortState`. -/
inductive BridgePortState where
  | disabled | listening | learning | forwarding | blocking | other (d : UInt8)
deriving DecidableEq

/-- The numbers of `BridgePortState`. -/
def BridgePortState.codec : EnumCodec UInt8 BridgePortState where
  arms := [(BR_STATE_DISABLED, .disabled), (BR_STATE_LISTENING, .listening),
    (BR_STATE_LEARNING, .learning), (BR_STATE_FORWARDING, .forwarding),
    (BR_STATE_BLOCKING, .blocking)]
  other := .other
  toNum
    | .disabled => BR_STATE_DISABLED | .listening => BR_STATE_LISTENING
    | .learning => BR_STATE_LEARNING | .forwarding => BR_STATE_FORWARDING
    | .blocking => BR_STATE_BLOCKING | .other d => d
  toNum_arm := by decide
  toNum_other _ := rfl

abbrev MDB_RTR_TYPE_DISABLED : UInt8 := 0
abbrev MDB_RTR_TYPE_TEMP_QUERY : UInt8 := 1
abbrev MDB_RTR_TYPE_PERM : UInt8 := 2
abbrev MDB_RTR_TYPE_TEMP : UInt8 := 3

/-- `BridgePortMulticastRouter`. -/
inductive BridgePortMulticastRouter where
  | disabled | tempQuery | perm | temp | other (d : UInt8)
deriving DecidableEq

/-- The numbers of `BridgePortMulticastRouter`. -/
def BridgePortMulticastRouter.codec : EnumCodec UInt8 BridgePortMulticastRouter where
  arms := [(MDB_RTR_TYPE_DISABLED, .disabled), (MDB_RTR_TYPE_TEMP_QUERY, .tempQuery),
    (MDB_RTR_TYPE_PERM, .perm), (MDB_RTR_TYPE_TEMP, .temp)]
  other := .other
  toNum
    | .disabled => MDB_RTR_TYPE_DISABLED | .tempQuery => MDB_RTR_TYPE_TEMP_QUERY
    | .perm => MDB_RTR_TYPE_PERM | .temp => MDB_RTR_TYPE_TEMP | .other d => d
  toNum_arm := by decide
  toNum_other _ := rfl

abbrev IFLA_BRPORT_STATE : UInt16 := 1
abbrev IFLA_BRPORT_PRIORITY : UInt16 := 2
abbrev IFLA_BRPORT_COST : UInt16 := 3
abbrev IFLA_BRPORT_MODE : UInt16 := 4
abbrev IFLA_BRPORT_GUARD : UInt16 := 5
abbrev IFLA_BRPORT_PROTECT : UInt16 := 6
abbrev IFLA_BRPORT_FAST_LEAVE : UInt16 := 7
abbrev IFLA_BRPORT_LEARNING : UInt16 := 8
abbrev IFLA_BRPORT_UNICAST_FLOOD : UInt16 := 9
abbrev IFLA_BRPORT_PROXYARP : UInt16 := 10
abbrev IFLA_BRPORT_PROXYARP_WIFI : UInt16 := 12
abbrev IFLA_BRPORT_ROOT_ID : UInt16 := 13
abbrev IFLA_BRPORT_BRIDGE_ID : UInt16 := 14
abbrev IFLA_BRPORT_DESIGNATED_PORT : UInt16 := 15
abbrev IFLA_BRPORT_DESIGNATED_COST : UInt16 := 16
abbrev IFLA_BRPORT_ID : UInt16 := 17
abbrev IFLA_BRPORT_NO : UInt16 := 18
abbrev IFLA_BRPORT_TOPOLOGY_CHANGE_ACK : UInt16 := 19
abbrev IFLA_BRPORT_CONFIG_PENDING : UInt16 := 20
abbrev IFLA_BRPORT_MESSAGE_AGE_TIMER : UInt16 := 21
abbrev IFLA_BRPORT_FORWARD_DELAY_TIMER : UInt16 := 22
abbrev IFLA_BRPORT_HOLD_TIMER : UInt16 := 23
abbrev IFLA_BRPORT_FLUSH : UInt16 := 24
abbrev IFLA_BRPORT_MULTICAST_ROUTER : UInt16 := 25
abbrev IFLA_BRPORT_MCAST_FLOOD : UInt16 := 27
abbrev IFLA_BRPORT_MCAST_TO_UCAST : UInt16 := 28
abbrev IFLA_BRPORT_VLAN_TUNNEL : UInt16 := 29
abbrev IFLA_BRPORT_BCAST_FLOOD : UInt16 := 30
abbrev IFLA_BRPORT_GROUP_FWD_MASK : UInt16 := 31
abbrev IFLA_BRPORT_NEIGH_SUPPRESS : UInt16 := 32
abbrev IFLA_BRPORT_ISOLATED : UInt16 := 33
abbrev IFLA_BRPORT_BACKUP_PORT : UInt16 := 34
abbrev IFLA_BRPORT_MRP_RING_OPEN : UInt16 := 35
abbrev IFLA_BRPORT_MRP_IN_OPEN : UInt16 := 36
abbrev IFLA_BRPORT_MCAST_EHT_HOSTS_LIMIT : UInt16 := 37
abbrev IFLA_BRPORT_MCAST_EHT_HOSTS_CNT : UInt16 := 38
abbrev IFLA_BRPORT_LOCKED : UInt16 := 39
abbrev IFLA_BRPORT_MAB : UInt16 := 40
abbrev IFLA_BRPORT_MCAST_N_GROUPS : UInt16 := 41
abbrev IFLA_BRPORT_MCAST_MAX_GROUPS : UInt16 := 42
abbrev IFLA_BRPORT_NEIGH_VLAN_SUPPRESS : UInt16 := 43
abbrev IFLA_BRPORT_BACKUP_NHID : UInt16 := 44

/-- `InfoBridgePort`. -/
inductive InfoBridgePort where
  | state (v : BridgePortState)
  | priority (v : UInt16)
  | cost (v : UInt32)
  | hairpinMode (v : Bool)
  | guard (v : Bool)
  | protect (v : Bool)
  | fastLeave (v : Bool)
  | learning (v : Bool)
  | unicastFlood (v : Bool)
  | proxyARP (v : Bool)
  | proxyARPWifi (v : Bool)
  | rootId (v : BridgeId)
  | bridgeId (v : BridgeId)
  | designatedPort (v : UInt16)
  | designatedCost (v : UInt16)
  | portId (v : UInt16)
  | portNumber (v : UInt16)
  | topologyChangeAck (v : Bool)
  | configPending (v : Bool)
  | messageAgeTimer (v : UInt64)
  | forwardDelayTimer (v : UInt64)
  | holdTimer (v : UInt64)
  | flush
  | multicastRouter (v : BridgePortMulticastRouter)
  | multicastFlood (v : Bool)
  | multicastToUnicast (v : Bool)
  | vlanTunnel (v : Bool)
  | broadcastFlood (v : Bool)
  | groupFwdMask (v : UInt16)
  | neighSupress (v : Bool)
  | isolated (v : Bool)
  | backupPort (v : UInt32)
  | mrpRingOpen (v : Bool)
  | mrpInOpen (v : Bool)
  | multicastEhtHostsLimit (v : UInt32)
  | multicastEhtHostsCnt (v : UInt32)
  | locked (v : Bool)
  | mab (v : Bool)
  | multicastNGroups (v : UInt32)
  | multicastMaxGroups (v : UInt32)
  | neighVlanSupress (v : Bool)
  | backupNextHopId (v : UInt32)
  | other (v : DefaultNla)
deriving DecidableEq

namespace InfoBridgePort

def kind : InfoBridgePort → UInt16
  | .state _ => IFLA_BRPORT_STATE
  | .priority _ => IFLA_BRPORT_PRIORITY
  | .cost _ => IFLA_BRPORT_COST
  | .hairpinMode _ => IFLA_BRPORT_MODE
  | .guard _ => IFLA_BRPORT_GUARD
  | .protect _ => IFLA_BRPORT_PROTECT
  | .fastLeave _ => IFLA_BRPORT_FAST_LEAVE
  | .learning _ => IFLA_BRPORT_LEARNING
  | .unicastFlood _ => IFLA_BRPORT_UNICAST_FLOOD
  | .proxyARP _ => IFLA_BRPORT_PROXYARP
  | .proxyARPWifi _ => IFLA_BRPORT_PROXYARP_WIFI
  | .rootId _ => IFLA_BRPORT_ROOT_ID
  | .bridgeId _ => IFLA_BRPORT_BRIDGE_ID
  | .designatedPort _ => IFLA_BRPORT_DESIGNATED_PORT
  | .designatedCost _ => IFLA_BRPORT_DESIGNATED_COST
  | .portId _ => IFLA_BRPORT_ID
  | .portNumber _ => IFLA_BRPORT_NO
  | .topologyChangeAck _ => IFLA_BRPORT_TOPOLOGY_CHANGE_ACK
  | .configPending _ => IFLA_BRPORT_CONFIG_PENDING
  | .messageAgeTimer _ => IFLA_BRPORT_MESSAGE_AGE_TIMER
  | .forwardDelayTimer _ => IFLA_BRPORT_FORWARD_DELAY_TIMER
  | .holdTimer _ => IFLA_BRPORT_HOLD_TIMER
  | .flush => IFLA_BRPORT_FLUSH
  | .multicastRouter _ => IFLA_BRPORT_MULTICAST_ROUTER
  | .multicastFlood _ => IFLA_BRPORT_MCAST_FLOOD
  | .multicastToUnicast _ => IFLA_BRPORT_MCAST_TO_UCAST
  | .vlanTunnel _ => IFLA_BRPORT_VLAN_TUNNEL
  | .broadcastFlood _ => IFLA_BRPORT_BCAST_FLOOD
  | .groupFwdMask _ => IFLA_BRPORT_GROUP_FWD_MASK
  | .neighSupress _ => IFLA_BRPORT_NEIGH_SUPPRESS
  | .isolated _ => IFLA_BRPORT_ISOLATED
  | .backupPort _ => IFLA_BRPORT_BACKUP_PORT
  | .mrpRingOpen _ => IFLA_BRPORT_MRP_RING_OPEN
  | .mrpInOpen _ => IFLA_BRPORT_MRP_IN_OPEN
  | .multicastEhtHostsLimit _ => IFLA_BRPORT_MCAST_EHT_HOSTS_LIMIT
  | .multicastEhtHostsCnt _ => IFLA_BRPORT_MCAST_EHT_HOSTS_CNT
  | .locked _ => IFLA_BRPORT_LOCKED
  | .mab _ => IFLA_BRPORT_MAB
  | .multicastNGroups _ => IFLA_BRPORT_MCAST_N_GROUPS
  | .multicastMaxGroups _ => IFLA_BRPORT_MCAST_MAX_GROUPS
  | .neighVlanSupress _ => IFLA_BRPORT_NEIGH_VLAN_SUPPRESS
  | .backupNextHopId _ => IFLA_BRPORT_BACKUP_NHID
  | .other nla => nla.kind

def valueLen : InfoBridgePort → ℕ
  | .flush => 0
  | .state _ | .hairpinMode _ | .guard _ | .protect _ | .fastLeave _ | .learning _
  | .unicastFlood _ | .proxyARP _ | .proxyARPWifi _ | .topologyChangeAck _ | .configPending _
  | .multicastRouter _ | .multicastFlood _ | .multicastToUnicast _ | .vlanTunnel _
  | .broadcastFlood _ | .neighSupress _ | .isolated _ | .mrpRingOpen _ | .mrpInOpen _ | .locked _
  | .mab _ | .neighVlanSupress _ => 1
  | .priority _ | .designatedPort _ | .designatedCost _ | .portId _ | .portNumber _
  | .groupFwdMask _ => 2
  | .cost _ | .backupPort _ | .multicastEhtHostsLimit _ | .multicastEhtHostsCnt _
  | .multicastNGroups _ | .multicastMaxGroups _ | .backupNextHopId _ => 4
  | .rootId _ | .bridgeId _ | .messageAgeTimer _ | .forwardDelayTimer _ | .holdTimer _ => 8
  | .other nla => nla.valueLen

def emitValue : InfoBridgePort → Emitter
  | .flush => .skip
  | .hairpinMode value | .guard value | .protect value | .fastLeave value | .learning value
  | .unicastFlood value | .proxyARP value | .topologyChangeAck value | .configPending value
  | .proxyARPWifi value | .multicastFlood value | .multicastToUnicast value | .vlanTunnel value
  | .broadcastFlood value | .neighSupress value | .isolated value | .mrpRingOpen value
  | .mrpInOpen value | .locked value | .mab value | .neighVlanSupress value =>
    .put 0 [value.toUInt8]
  | .priority value | .designatedPort value | .designatedCost value | .portId value
  | .portNumber value | .groupFwdMask value => .put 0 (ne.u16 value)
  | .cost value | .backupPort value | .multicastEhtHostsLimit value | .multicastEhtHostsCnt value
  | .multicastNGroups value | .multicastMaxGroups value | .backupNextHopId value =>
    .put 0 (ne.u32 value)
  | .messageAgeTimer value | .forwardDelayTimer value | .holdTimer value => .put 0 (ne.u64 value)
  | .rootId bridge_id | .bridgeId bridge_id => BridgeId.codec.emit bridge_id
  | .state v => .put 0 [BridgePortState.codec.toNum v]
  | .multicastRouter mcast_router => .put 0 [BridgePortMulticastRouter.codec.toNum mcast_router]
  | .other nla => nla.emitValue

/-- The attribute, as the attribute layer sees it. -/
def nla (a : InfoBridgePort) : Nla := ⟨a.valueLen, a.kind, a.emitValue⟩

def parse (buf : NlaBuffer) : Outcome InfoBridgePort := do
  let payload ← value buf
  let kind ← PacketUtils.kind buf
  select kind [
    (IFLA_BRPORT_STATE,
      (.state ∘ BridgePortState.codec.ofNum) <$>
        (parseU8 payload).context ("invalid IFLA_BRPORT_STATE " ++ debug payload)),
    (IFLA_BRPORT_PRIORITY,
      .priority <$> (parseU16 payload).context ("invalid IFLA_BRPORT_PRIORITY " ++ debug payload)),
    (IFLA_BRPORT_COST,
      .cost <$> (parseU32 payload).context ("invalid IFLA_BRPORT_COST " ++ debug payload)),
    (IFLA_BRPORT_MODE,
      (fun v => .hairpinMode (decide (v > 0))) <$>
        (parseU8 payload).context ("invalid IFLA_BRPORT_MODE " ++ debug payload)),
    (IFLA_BRPORT_GUARD,
      (fun v => .guard (decide (v > 0))) <$>
        (parseU8 payload).context ("invalid IFLA_BRPORT_GUARD " ++ debug payload)),
    (IFLA_BRPORT_PROTECT,
      (fun v => .protect (decide (v > 0))) <$>
        (parseU8 payload).context ("invalid IFLA_BRPORT_PROTECT " ++ debug payload)),
    (IFLA_BRPORT_FAST_LEAVE,
      (fun v => .fastLeave (decide (v > 0))) <$>
        (parseU8 payload).context ("invalid IFLA_BRPORT_FAST_LEAVE " ++ debug payload)),
    (IFLA_BRPORT_LEARNING,
      (fun v => .learning (decide (v > 0))) <$>
        (parseU8 payload).context ("invalid IFLA_BRPORT_LEARNING " ++ debug payload)),
    (IFLA_BRPORT_UNICAST_FLOOD,
      (fun v => .unicastFlood (decide (v > 0))) <$>
        (parseU8 payload).context ("invalid IFLA_BRPORT_UNICAST_FLOOD " ++ debug payload)),
    (IFLA_BRPORT_PROXYARP,
      (fun v => .proxyARP (decide (v > 0))) <$>
        (parseU8 payload).context ("invalid IFLA_BRPORT_PROXYARP " ++ debug payload)),
    (IFLA_BRPORT_PROXYARP_WIFI,
      (fun v => .proxyARPWifi (decide (v > 0))) <$>
        (parseU8 payload).context ("invalid IFLA_BRPORT_PROXYARP_WIFI " ++ debug payload)),
    (IFLA_BRPORT_ROOT_ID,
      .rootId <$>
        (BridgeId.codec.parse payload).context ("invalid IFLA_BRPORT_ROOT_ID " ++ debug payload)),
    (IFLA_BRPORT_BRIDGE_ID,
      .bridgeId <$>
        (BridgeId.codec.parse payload).context ("invalid IFLA_BRPORT_BRIDGE_ID " ++ debug payload)),
    (IFLA_BRPORT_DESIGNATED_PORT,
      .designatedPort <$>
        (parseU16 payload).context ("invalid IFLA_BRPORT_DESIGNATED_PORT " ++ debug payload)),
    (IFLA_BRPORT_DESIGNATED_COST,
      .designatedCost <$>
        (parseU16 payload).context ("invalid IFLA_BRPORT_DESIGNATED_COST " ++ debug payload)),
    (IFLA_BRPORT_ID,
      .portId <$> (parseU16 payload).context ("invalid IFLA_BRPORT_ID " ++ debug payload)),
    (IFLA_BRPORT_NO,
      .portNumber <$> (parseU16 payload).context ("invalid IFLA_BRPORT_NO " ++ debug payload)),
    (IFLA_BRPORT_TOPOLOGY_CHANGE_ACK,
      (fun v => .topologyChangeAck (decide (v > 0))) <$>
        (parseU8 payload).context ("invalid IFLA_BRPORT_TOPOLOGY_CHANGE_ACK " ++ debug payload)),
    (IFLA_BRPORT_CONFIG_PENDING,
      (fun v => .configPending (decide (v > 0))) <$>
        (parseU8 payload).context ("invalid IFLA_BRPORT_CONFIG_PENDING " ++ debug payload)),
    (IFLA_BRPORT_MESSAGE_AGE_TIMER,
      .messageAgeTimer <$>
        (parseU64 payload).context ("invalid IFLA_BRPORT_MESSAGE_AGE_TIMER " ++ debug payload)),
    (IFLA_BRPORT_FORWARD_DELAY_TIMER,
      .forwardDelayTimer <$>
        (parseU64 payload).context ("invalid IFLA_BRPORT_FORWARD_DELAY_TIMER " ++ debug payload)),
    (IFLA_BRPORT_HOLD_TIMER,
      .holdTimer <$>
        (parseU64 payload).context ("invalid IFLA_BRPORT_HOLD_TIMER " ++ debug payload)),
    (IFLA_BRPORT_FLUSH, .ok .flush),
    (IFLA_BRPORT_MULTICAST_ROUTER,
      (.multicastRouter ∘ BridgePortMulticastRouter.codec.ofNum) <$>
        (parseU8 payload).context ("invalid IFLA_BRPORT_MULTICAST_ROUTER " ++ debug payload)),
    (IFLA_BRPORT_MCAST_FLOOD,
      (fun v => .multicastFlood (decide (v > 0))) <$>
        (parseU8 payload).context ("invalid IFLA_BRPORT_MCAST_FLOOD " ++ debug payload)),
    (IFLA_BRPORT_MCAST_TO_UCAST,
      (fun v => .multicastToUnicast (decide (v > 0))) <$>
        (parseU8 payload).context ("invalid IFLA_BRPORT_MCAST_TO_UCAST " ++ debug payload)),
    (IFLA_BRPORT_VLAN_TUNNEL,
      (fun v => .vlanTunnel (decide (v > 0))) <$>
        (parseU8 payload).context ("invalid IFLA_BRPORT_VLAN_TUNNEL " ++ debug payload)),
    (IFLA_BRPORT_BCAST_FLOOD,
      (fun v => .broadcastFlood (decide (v > 0))) <$>
        (parseU8 payload).context ("invalid IFLA_BRPORT_BCAST_FLOOD " ++ debug payload)),
    (IFLA_BRPORT_GROUP_FWD_MASK,
      .groupFwdMask <$>
        (parseU16 payload).context ("invalid IFLA_BRPORT_GROUP_FWD_MASK " ++ debug payload)),
    (IFLA_BRPORT_NEIGH_SUPPRESS,
      (fun v => .neighSupress (decide (v > 0))) <$>
        (parseU8 payload).context ("invalid IFLA_BRPORT_NEIGH_SUPPRESS " ++ debug payload)),
    (IFLA_BRPORT_ISOLATED,
      (fun v => .isolated (decide (v > 0))) <$>
        (parseU8 payload).context ("invalid IFLA_BRPORT_ISOLATED " ++ debug payload)),
    (IFLA_BRPORT_BACKUP_PORT,
      .backupPort <$>
        (parseU32 payload).context ("invalid IFLA_BRPORT_BACKUP_PORT " ++ debug payload)),
    (IFLA_BRPORT_MRP_RING_OPEN,
      (fun v => .mrpRingOpen (decide (v > 0))) <$>
        (parseU8 payload).context ("invalid IFLA_BRPORT_MRP_RING_OPEN " ++ debug payload)),
    (IFLA_BRPORT_MRP_IN_OPEN,
      (fun v => .mrpInOpen (decide (v > 0))) <$>
        (parseU8 payload).context ("invalid IFLA_BRPORT_MRP_IN_OPEN " ++ debug payload)),
    (IFLA_BRPORT_MCAST_EHT_HOSTS_LIMIT,
      .multicastEhtHostsLimit <$> (parseU32 payload).context
        ("invalid IFLA_BRPORT_MCAST_EHT_HOSTS_LIMIT " ++ debug payload)),
    (IFLA_BRPORT_MCAST_EHT_HOSTS_CNT,
      .multicastEhtHostsCnt <$>
        (parseU32 payload).context ("invalid IFLA_BRPORT_MCAST_EHT_HOSTS_CNT " ++ debug payload)),
    (IFLA_BRPORT_LOCKED,
      (fun v => .locked (decide (v > 0))) <$>
        (parseU8 payload).context ("invalid IFLA_BRPORT_LOCKED " ++ debug payload)),
    (IFLA_BRPORT_MAB,
      (fun v => .mab (decide (v > 0))) <$>
        (parseU8 payload).context ("invalid IFLA_BRPORT_MAB " ++ debug payload)),
    (IFLA_BRPORT_MCAST_N_GROUPS,
      .multicastNGroups <$>
        (parseU32 payload).context ("invalid IFLA_BRPORT_MCAST_N_GROUPS " ++ debug payload)),
    (IFLA_BRPORT_MCAST_MAX_GROUPS,
      .multicastMaxGroups <$>
        (parseU32 payload).context ("invalid IFLA_BRPORT_MCAST_MAX_GROUPS " ++ debug payload)),
    (IFLA_BRPORT_NEIGH_VLAN_SUPPRESS,
      (fun v => .neighVlanSupress (decide (v > 0))) <$>
        (parseU8 payload).context ("invalid IFLA_BRPORT_NEIGH_VLAN_SUPPRESS " ++ debug payload)),
    (IFLA_BRPORT_BACKUP_NHID,
      .backupNextHopId <$>
        (parseU32 payload).context ("invalid IFLA_BRPORT_BACKUP_NHID " ++ debug payload))]
    (.other <$> (defaultNla buf).context
      ("failed to parse bridge port NLA of type '" ++ toString kind ++ "' into DefaultNla"))

end InfoBridgePort

end

end NetlinkRoute
