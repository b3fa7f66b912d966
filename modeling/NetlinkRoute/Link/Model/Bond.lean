import NetlinkRoute.Common.Message
import NetlinkRoute.Common.Enum
import NetlinkRoute.Family
/-!
# Link — bonds and their ports

The attributes of a bond and of each of its ports. The targets of ARP and
neighbour probes are lists of addresses whose kinds are their positions;
an element that is no address of the right version is skipped.
-/

namespace NetlinkRoute

open PacketUtils Emitter

section

variable [PacketUtils]

/-! ## Bonds -/

abbrev BOND_MODE_ROUNDROBIN : UInt8 := 0
abbrev BOND_MODE_ACTIVEBACKUP : UInt8 := 1
abbrev BOND_MODE_XOR : UInt8 := 2
abbrev BOND_MODE_BROADCAST : UInt8 := 3
abbrev BOND_MODE_8023AD : UInt8 := 4
abbrev BOND_MODE_TLB : UInt8 := 5
abbrev BOND_MODE_ALB : UInt8 := 6

/-- `BondMode`. -/
inductive BondMode where
  | balanceRr | activeBackup | balanceXor | broadcast | ieee8023Ad | balanceTlb | balanceAlb
  | other (d : UInt8)
deriving DecidableEq

/-- The numbers of `BondMode`. -/
def BondMode.codec : EnumCodec UInt8 BondMode where
  arms := [(BOND_MODE_ROUNDROBIN, .balanceRr), (BOND_MODE_ACTIVEBACKUP, .activeBackup),
    (BOND_MODE_XOR, .balanceXor), (BOND_MODE_BROADCAST, .broadcast),
    (BOND_MODE_8023AD, .ieee8023Ad), (BOND_MODE_TLB, .balanceTlb), (BOND_MODE_ALB, .balanceAlb)]
  other := .other
  toNum
    | .balanceRr => BOND_MODE_ROUNDROBIN | .activeBackup => BOND_MODE_ACTIVEBACKUP
    | .balanceXor => BOND_MODE_XOR | .broadcast => BOND_MODE_BROADCAST
    | .ieee8023Ad => BOND_MODE_8023AD | .balanceTlb => BOND_MODE_TLB
    | .balanceAlb => BOND_MODE_ALB | .other d => d
  toNum_arm := by decide
  toNum_other _ := rfl

abbrev IFLA_BOND_AD_INFO_AGGREGATOR : UInt16 := 1
abbrev IFLA_BOND_AD_INFO_NUM_PORTS : UInt16 := 2
abbrev IFLA_BOND_AD_INFO_ACTOR_KEY : UInt16 := 3
abbrev IFLA_BOND_AD_INFO_PARTNER_KEY : UInt16 := 4
abbrev IFLA_BOND_AD_INFO_PARTNER_MAC : UInt16 := 5

/-- `BondAdInfo`. -/
inductive BondAdInfo where
  | aggregator (v : UInt16)
  | numPorts (v : UInt16)
  | actorKey (v : UInt16)
  | partnerKey (v : UInt16)
  | partnerMac (v : Octets 6)
  | other (v : DefaultNla)
deriving DecidableEq

namespace BondAdInfo

def kind : BondAdInfo → UInt16
  | .aggregator _ => IFLA_BOND_AD_INFO_AGGREGATOR
  | .numPorts _ => IFLA_BOND_AD_INFO_NUM_PORTS
  | .actorKey _ => IFLA_BOND_AD_INFO_ACTOR_KEY
  | .partnerKey _ => IFLA_BOND_AD_INFO_PARTNER_KEY
  | .partnerMac _ => IFLA_BOND_AD_INFO_PARTNER_MAC
  | .other v => v.kind

def valueLen : BondAdInfo → ℕ
  | .aggregator _ | .numPorts _ | .actorKey _ | .partnerKey _ => 2
  | .partnerMac _ => 6
  | .other v => v.valueLen

def emitValue : BondAdInfo → Emitter
  | .aggregator d | .numPorts d | .actorKey d | .partnerKey d => .put 0 (ne.u16 d)
  | .partnerMac mac => .copy mac.val
  | .other v => v.emitValue

/-- The attribute, as the attribute layer sees it. -/
def nla (a : BondAdInfo) : Nla := ⟨a.valueLen, a.kind, a.emitValue⟩

def parse (buf : NlaBuffer) : Outcome BondAdInfo := do
  let payload ← value buf
  let kind ← PacketUtils.kind buf
  select kind [
    (IFLA_BOND_AD_INFO_AGGREGATOR,
      .aggregator <$> (parseU16 payload).context "invalid IFLA_BOND_AD_INFO_AGGREGATOR value"),
    (IFLA_BOND_AD_INFO_NUM_PORTS,
      .numPorts <$> (parseU16 payload).context "invalid IFLA_BOND_AD_INFO_NUM_PORTS value"),
    (IFLA_BOND_AD_INFO_ACTOR_KEY,
      .actorKey <$> (parseU16 payload).context "invalid IFLA_BOND_AD_INFO_ACTOR_KEY value"),
    (IFLA_BOND_AD_INFO_PARTNER_KEY,
      .partnerKey <$> (parseU16 payload).context "invalid IFLA_BOND_AD_INFO_PARTNER_KEY value"),
    (IFLA_BOND_AD_INFO_PARTNER_MAC,
      .partnerMac <$> (parseMac payload).context "invalid IFLA_BOND_AD_INFO_PARTNER_MAC value")]
    (.other <$>
      (defaultNla buf).context ("invalid NLA for " ++ toString kind ++ ": " ++ debug payload))

end BondAdInfo

/-- `BondIpAddrNla`: an address whose kind is its position. -/
structure BondIpAddrNla where
  index : UInt16
  addr : IpAddr

namespace BondIpAddrNla

def valueLen (a : BondIpAddrNla) : ℕ :=
  match a.addr with
  | .v4 _ => 4
  | .v6 _ => 16

/-- The attribute, as the attribute layer sees it. -/
def nla (a : BondIpAddrNla) : Nla := ⟨a.valueLen, a.index, .copy a.addr.octets⟩

/-- `BondIpAddrNlaList::from`. Positions have sixteen bits. -/
def list (addrs : List IpAddr) : List BondIpAddrNla :=
  addrs.zipIdx.map fun (addr, i) => { index := UInt16.ofNat i, addr }

end BondIpAddrNla

/-- One turn over the targets: what `pick` takes of an address is kept,
and all else is skipped. -/
def pickTarget {α : Type} (pick : IpAddr → List α) (nla : NlaBuffer) : Outcome (List α) := do
  match parseIp (← value nla) with
  | .ok ip => .ok (pick ip)
  | .err _ => .ok []
  | .panic => .panic

abbrev IFLA_BOND_MODE : UInt16 := 1
abbrev IFLA_BOND_ACTIVE_PORT : UInt16 := 2
abbrev IFLA_BOND_MIIMON : UInt16 := 3
abbrev IFLA_BOND_UPDELAY : UInt16 := 4
abbrev IFLA_BOND_DOWNDELAY : UInt16 := 5
abbrev IFLA_BOND_USE_CARRIER : UInt16 := 6
abbrev IFLA_BOND_ARP_INTERVAL : UInt16 := 7
abbrev IFLA_BOND_ARP_IP_TARGET : UInt16 := 8
abbrev IFLA_BOND_ARP_VALIDATE : UInt16 := 9
abbrev IFLA_BOND_ARP_ALL_TARGETS : UInt16 := 10
abbrev IFLA_BOND_PRIMARY : UInt16 := 11
abbrev IFLA_BOND_PRIMARY_RESELECT : UInt16 := 12
abbrev IFLA_BOND_FAIL_OVER_MAC : UInt16 := 13
abbrev IFLA_BOND_XMIT_HASH_POLICY : UInt16 := 14
abbrev IFLA_BOND_RESEND_IGMP : UInt16 := 15
abbrev IFLA_BOND_NUM_PEER_NOTIF : UInt16 := 16
abbrev IFLA_BOND_ALL_PORTS_ACTIVE : UInt16 := 17
abbrev IFLA_BOND_MIN_LINKS : UInt16 := 18
abbrev IFLA_BOND_LP_INTERVAL : UInt16 := 19
abbrev IFLA_BOND_PACKETS_PER_PORT : UInt16 := 20
abbrev IFLA_BOND_AD_LACP_RATE : UInt16 := 21
abbrev IFLA_BOND_AD_SELECT : UInt16 := 22
abbrev IFLA_BOND_AD_INFO : UInt16 := 23
abbrev IFLA_BOND_AD_ACTOR_SYS_PRIO : UInt16 := 24
abbrev IFLA_BOND_AD_USER_PORT_KEY : UInt16 := 25
abbrev IFLA_BOND_AD_ACTOR_SYSTEM : UInt16 := 26
abbrev IFLA_BOND_TLB_DYNAMIC_LB : UInt16 := 27
abbrev IFLA_BOND_PEER_NOTIF_DELAY : UInt16 := 28
abbrev IFLA_BOND_AD_LACP_ACTIVE : UInt16 := 29
abbrev IFLA_BOND_MISSED_MAX : UInt16 := 30
abbrev IFLA_BOND_NS_IP6_TARGET : UInt16 := 31

/-- `InfoBond`. -/
inductive InfoBond where
  | mode (v : BondMode)
  | activePort (v : UInt32)
  | miiMon (v : UInt32)
  | upDelay (v : UInt32)
  | downDelay (v : UInt32)
  | useCarrier (v : UInt8)
  | arpInterval (v : UInt32)
  | arpIpTarget (v : List Ipv4Addr)
  | arpValidate (v : UInt32)
  | arpAllTargets (v : UInt32)
  | primary (v : UInt32)
  | primaryReselect (v : UInt8)
  | failOverMac (v : UInt8)
  | xmitHashPolicy (v : UInt8)
  | resendIgmp (v : UInt32)
  | numPeerNotif (v : UInt8)
  | allPortsActive (v : UInt8)
  | minLinks (v : UInt32)
  | lpInterval (v : UInt32)
  | packetsPerPort (v : UInt32)
  | adLacpRate (v : UInt8)
  | adSelect (v : UInt8)
  | adInfo (v : List BondAdInfo)
  | adActorSysPrio (v : UInt16)
  | adUserPortKey (v : UInt16)
  | adActorSystem (v : Octets 6)
  | tlbDynamicLb (v : UInt8)
  | peerNotifDelay (v : UInt32)
  | adLacpActive (v : UInt8)
  | missedMax (v : UInt8)
  | nsIp6Target (v : List Ipv6Addr)
  | other (v : DefaultNla)
deriving DecidableEq

namespace InfoBond

def kind : InfoBond → UInt16
  | .mode _ => IFLA_BOND_MODE
  | .activePort _ => IFLA_BOND_ACTIVE_PORT
  | .miiMon _ => IFLA_BOND_MIIMON
  | .upDelay _ => IFLA_BOND_UPDELAY
  | .downDelay _ => IFLA_BOND_DOWNDELAY
  | .useCarrier _ => IFLA_BOND_USE_CARRIER
  | .arpInterval _ => IFLA_BOND_ARP_INTERVAL
  | .arpIpTarget _ => IFLA_BOND_ARP_IP_TARGET
  | .arpValidate _ => IFLA_BOND_ARP_VALIDATE
  | .arpAllTargets _ => IFLA_BOND_ARP_ALL_TARGETS
  | .primary _ => IFLA_BOND_PRIMARY
  | .primaryReselect _ => IFLA_BOND_PRIMARY_RESELECT
  | .failOverMac _ => IFLA_BOND_FAIL_OVER_MAC
  | .xmitHashPolicy _ => IFLA_BOND_XMIT_HASH_POLICY
  | .resendIgmp _ => IFLA_BOND_RESEND_IGMP
  | .numPeerNotif _ => IFLA_BOND_NUM_PEER_NOTIF
  | .allPortsActive _ => IFLA_BOND_ALL_PORTS_ACTIVE
  | .minLinks _ => IFLA_BOND_MIN_LINKS
  | .lpInterval _ => IFLA_BOND_LP_INTERVAL
  | .packetsPerPort _ => IFLA_BOND_PACKETS_PER_PORT
  | .adLacpRate _ => IFLA_BOND_AD_LACP_RATE
  | .adSelect _ => IFLA_BOND_AD_SELECT
  | .adInfo _ => IFLA_BOND_AD_INFO
  | .adActorSysPrio _ => IFLA_BOND_AD_ACTOR_SYS_PRIO
  | .adUserPortKey _ => IFLA_BOND_AD_USER_PORT_KEY
  | .adActorSystem _ => IFLA_BOND_AD_ACTOR_SYSTEM
  | .tlbDynamicLb _ => IFLA_BOND_TLB_DYNAMIC_LB
  | .peerNotifDelay _ => IFLA_BOND_PEER_NOTIF_DELAY
  | .adLacpActive _ => IFLA_BOND_AD_LACP_ACTIVE
  | .missedMax _ => IFLA_BOND_MISSED_MAX
  | .nsIp6Target _ => IFLA_BOND_NS_IP6_TARGET
  | .other v => v.kind

def valueLen : InfoBond → ℕ
  | .mode _ | .useCarrier _ | .primaryReselect _ | .failOverMac _ | .xmitHashPolicy _
  | .numPeerNotif _ | .allPortsActive _ | .adLacpActive _ | .adLacpRate _ | .adSelect _
  | .tlbDynamicLb _ | .missedMax _ => 1
  | .adActorSysPrio _ | .adUserPortKey _ => 2
  | .activePort _ | .miiMon _ | .upDelay _ | .downDelay _ | .arpInterval _ | .arpValidate _
  | .arpAllTargets _ | .primary _ | .resendIgmp _ | .minLinks _ | .lpInterval _
  | .packetsPerPort _ | .peerNotifDelay _ => 4
  | .arpIpTarget addrs => nlasLen ((BondIpAddrNla.list (addrs.map .v4)).map BondIpAddrNla.nla)
  | .nsIp6Target addrs => nlasLen ((BondIpAddrNla.list (addrs.map .v6)).map BondIpAddrNla.nla)
  | .adActorSystem _ => 6
  | .adInfo infos => nlasLen (infos.map BondAdInfo.nla)
  | .other v => v.valueLen

def emitValue : InfoBond → Emitter
  | .mode value => .put 0 [BondMode.codec.toNum value]
  | .useCarrier value | .primaryReselect value | .failOverMac value | .xmitHashPolicy value
  | .numPeerNotif value | .allPortsActive value | .adLacpActive value | .adLacpRate value
  | .adSelect value | .tlbDynamicLb value | .missedMax value => .put 0 [value]
  | .adActorSysPrio value | .adUserPortKey value => .put 0 (ne.u16 value)
  | .activePort value | .miiMon value | .upDelay value | .downDelay value | .arpInterval value
  | .arpValidate value | .arpAllTargets value | .primary value | .resendIgmp value
  | .minLinks value | .lpInterval value | .packetsPerPort value | .peerNotifDelay value =>
    .put 0 (ne.u32 value)
  | .adActorSystem bytes => .copy bytes.val
  | .arpIpTarget addrs => emitNlas ((BondIpAddrNla.list (addrs.map .v4)).map BondIpAddrNla.nla)
  | .nsIp6Target addrs => emitNlas ((BondIpAddrNla.list (addrs.map .v6)).map BondIpAddrNla.nla)
  | .adInfo infos => emitNlas (infos.map BondAdInfo.nla)
  | .other v => v.emitValue

/-- The attribute, as the attribute layer sees it. -/
def nla (a : InfoBond) : Nla := ⟨a.valueLen, a.kind, a.emitValue⟩

def parse (buf : NlaBuffer) : Outcome InfoBond := do
  let payload ← value buf
  let kind ← PacketUtils.kind buf
  select kind [
    (IFLA_BOND_MODE,
      (.mode ∘ BondMode.codec.ofNum) <$> (parseU8 payload).context "invalid IFLA_BOND_MODE value"),
    (IFLA_BOND_ACTIVE_PORT,
      .activePort <$> (parseU32 payload).context "invalid IFLA_BOND_ACTIVE_PORT value"),
    (IFLA_BOND_MIIMON, .miiMon <$> (parseU32 payload).context "invalid IFLA_BOND_MIIMON value"),
    (IFLA_BOND_UPDELAY,
      .upDelay <$> (parseU32 payload).context "invalid IFLA_BOND_UPDELAY value"),
    (IFLA_BOND_DOWNDELAY,
      .downDelay <$> (parseU32 payload).context "invalid IFLA_BOND_DOWNDELAY value"),
    (IFLA_BOND_USE_CARRIER,
      .useCarrier <$> (parseU8 payload).context "invalid IFLA_BOND_USE_CARRIER value"),
    (IFLA_BOND_ARP_INTERVAL,
      .arpInterval <$> (parseU32 payload).context "invalid IFLA_BOND_ARP_INTERVAL value"),
    (IFLA_BOND_ARP_IP_TARGET,
      (.arpIpTarget ∘ List.flatten) <$>
        parseEachWith "invalid IFLA_BOND_ARP_IP_TARGET value"
          (pickTarget fun | .v4 addr => [addr] | _ => []) payload),
    (IFLA_BOND_ARP_VALIDATE,
      .arpValidate <$> (parseU32 payload).context "invalid IFLA_BOND_ARP_VALIDATE value"),
    (IFLA_BOND_ARP_ALL_TARGETS,
      .arpAllTargets <$> (parseU32 payload).context "invalid IFLA_BOND_ARP_ALL_TARGETS value"),
    (IFLA_BOND_PRIMARY,
      .primary <$> (parseU32 payload).context "invalid IFLA_BOND_PRIMARY value"),
    (IFLA_BOND_PRIMARY_RESELECT,
      .primaryReselect <$> (parseU8 payload).context "invalid IFLA_BOND_PRIMARY_RESELECT value"),
    (IFLA_BOND_FAIL_OVER_MAC,
      .failOverMac <$> (parseU8 payload).context "invalid IFLA_BOND_FAIL_OVER_MAC value"),
    (IFLA_BOND_XMIT_HASH_POLICY,
      .xmitHashPolicy <$> (parseU8 payload).context "invalid IFLA_BOND_XMIT_HASH_POLICY value"),
    (IFLA_BOND_RESEND_IGMP,
      .resendIgmp <$> (parseU32 payload).context "invalid IFLA_BOND_RESEND_IGMP value"),
    (IFLA_BOND_NUM_PEER_NOTIF,
      .numPeerNotif <$> (parseU8 payload).context "invalid IFLA_BOND_NUM_PEER_NOTIF value"),
    (IFLA_BOND_ALL_PORTS_ACTIVE,
      .allPortsActive <$> (parseU8 payload).context "invalid IFLA_BOND_ALL_PORTS_ACTIVE value"),
    (IFLA_BOND_MIN_LINKS,
      .minLinks <$> (parseU32 payload).context "invalid IFLA_BOND_MIN_LINKS value"),
    (IFLA_BOND_LP_INTERVAL,
      .lpInterval <$> (parseU32 payload).context "invalid IFLA_BOND_LP_INTERVAL value"),
    (IFLA_BOND_PACKETS_PER_PORT,
      .packetsPerPort <$> (parseU32 payload).context "invalid IFLA_BOND_PACKETS_PER_PORT value"),
    (IFLA_BOND_AD_LACP_RATE,
      .adLacpRate <$> (parseU8 payload).context "invalid IFLA_BOND_AD_LACP_RATE value"),
    (IFLA_BOND_AD_SELECT,
      .adSelect <$> (parseU8 payload).context "invalid IFLA_BOND_AD_SELECT value"),
    (IFLA_BOND_AD_INFO,
      .adInfo <$>
        parseNlas "failed to parse IFLA_BOND_AD_INFO"
          "failed to parse IFLA_BOND_AD_INFO" BondAdInfo.parse payload),
    Prod.mk IFLA_BOND_AD_ACTOR_SYS_PRIO
      (.adActorSysPrio <$> (parseU16 payload).context "invalid IFLA_BOND_AD_ACTOR_SYS_PRIO value"),
    (IFLA_BOND_AD_USER_PORT_KEY,
      .adUserPortKey <$> (parseU16 payload).context "invalid IFLA_BOND_AD_USER_PORT_KEY value"),
    (IFLA_BOND_AD_ACTOR_SYSTEM,
      .adActorSystem <$> (parseMac payload).context "invalid IFLA_BOND_AD_ACTOR_SYSTEM value"),
    (IFLA_BOND_TLB_DYNAMIC_LB,
      .tlbDynamicLb <$> (parseU8 payload).context "invalid IFLA_BOND_TLB_DYNAMIC_LB value"),
    (IFLA_BOND_PEER_NOTIF_DELAY,
      .peerNotifDelay <$> (parseU32 payload).context "invalid IFLA_BOND_PEER_NOTIF_DELAY value"),
    (IFLA_BOND_AD_LACP_ACTIVE,
      .adLacpActive <$> (parseU8 payload).context "invalid IFLA_BOND_AD_LACP_ACTIVE value"),
    (IFLA_BOND_MISSED_MAX,
      .missedMax <$> (parseU8 payload).context "invalid IFLA_BOND_MISSED_MAX value"),
    (IFLA_BOND_NS_IP6_TARGET,
      (.nsIp6Target ∘ List.flatten) <$>
        parseEachWith "invalid IFLA_BOND_NS_IP6_TARGET value"
          (pickTarget fun | .v6 addr => [addr] | _ => []) payload)]
    (.other <$>
      (defaultNla buf).context ("invalid NLA for " ++ toString kind ++ ": " ++ debug payload))

end InfoBond

/-! ## Ports of a bond -/

abbrev IFLA_BOND_PORT_STATE_ACTIVE : UInt8 := 0
abbrev IFLA_BOND_PORT_STATE_BACKUP : UInt8 := 1

/-- `BondPortState`. -/
inductive BondPortState where
  | active | backup | other (d : UInt8)
deriving DecidableEq

/-- The numbers of `BondPortState`. -/
def BondPortState.codec : EnumCodec UInt8 BondPortState where
  arms := [(IFLA_BOND_PORT_STATE_ACTIVE, .active), (IFLA_BOND_PORT_STATE_BACKUP, .backup)]
  other := .other
  toNum
    | .active => IFLA_BOND_PORT_STATE_ACTIVE | .backup => IFLA_BOND_PORT_STATE_BACKUP
    | .other d => d
  toNum_arm := by decide
  toNum_other _ := rfl

abbrev IFLA_BOND_PORT_MII_STATUS_UP : UInt8 := 0
abbrev IFLA_BOND_PORT_MII_STATUS_GOING_DOWN : UInt8 := 1
abbrev IFLA_BOND_PORT_MII_STATUS_DOWN : UInt8 := 2
abbrev IFLA_BOND_PORT_MII_STATUS_GOING_BACK : UInt8 := 3

/-- `MiiStatus`. -/
inductive MiiStatus where
  | up | goingDown | down | goingBack | other (d : UInt8)
deriving DecidableEq

/-- The numbers of `MiiStatus`. -/
def MiiStatus.codec : EnumCodec UInt8 MiiStatus where
  arms := [(IFLA_BOND_PORT_MII_STATUS_UP, .up),
    (IFLA_BOND_PORT_MII_STATUS_GOING_DOWN, .goingDown), (IFLA_BOND_PORT_MII_STATUS_DOWN, .down),
    (IFLA_BOND_PORT_MII_STATUS_GOING_BACK, .goingBack)]
  other := .other
  toNum
    | .up => IFLA_BOND_PORT_MII_STATUS_UP | .goingDown => IFLA_BOND_PORT_MII_STATUS_GOING_DOWN
    | .down => IFLA_BOND_PORT_MII_STATUS_DOWN | .goingBack => IFLA_BOND_PORT_MII_STATUS_GOING_BACK
    | .other d => d
  toNum_arm := by decide
  toNum_other _ := rfl

abbrev IFLA_BOND_PORT_STATE : UInt16 := 1
abbrev IFLA_BOND_PORT_MII_STATUS : UInt16 := 2
abbrev IFLA_BOND_PORT_LINK_FAILURE_COUNT : UInt16 := 3
abbrev IFLA_BOND_PORT_PERM_HWADDR : UInt16 := 4
abbrev IFLA_BOND_PORT_QUEUE_ID : UInt16 := 5
abbrev IFLA_BOND_PORT_PRIO : UInt16 := 9

/-- `InfoBondPort`. -/
inductive InfoBondPort where
  | linkFailureCount (v : UInt32)
  | miiStatus (v : MiiStatus)
  | permHwaddr (v : Bytes)
  | prio (v : Int32)
  | queueId (v : UInt16)
  | bondPortState (v : BondPortState)
  | other (v : DefaultNla)
deriving DecidableEq

namespace InfoBondPort

def kind : InfoBondPort → UInt16
  | .linkFailureCount _ => IFLA_BOND_PORT_LINK_FAILURE_COUNT
  | .miiStatus _ => IFLA_BOND_PORT_MII_STATUS
  | .permHwaddr _ => IFLA_BOND_PORT_PERM_HWADDR
  | .prio _ => IFLA_BOND_PORT_PRIO
  | .queueId _ => IFLA_BOND_PORT_QUEUE_ID
  | .bondPortState _ => IFLA_BOND_PORT_STATE
  | .other nla => nla.kind

def valueLen : InfoBondPort → ℕ
  | .queueId _ => 2
  | .linkFailureCount _ | .prio _ => 4
  | .permHwaddr bytes => bytes.length
  | .miiStatus _ => 1
  | .bondPortState _ => 1
  | .other nla => nla.valueLen

def emitValue : InfoBondPort → Emitter
  | .queueId value => .put 0 (ne.u16 value)
  | .permHwaddr bytes => .copy bytes
  | .prio value => .put 0 (ne.i32 value)
  | .linkFailureCount value => .put 0 (ne.u32 value)
  | .miiStatus state => .put 0 [MiiStatus.codec.toNum state]
  | .bondPortState state => .put 0 [BondPortState.codec.toNum state]
  | .other nla => nla.emitValue

/-- The attribute, as the attribute layer sees it. -/
def nla (a : InfoBondPort) : Nla := ⟨a.valueLen, a.kind, a.emitValue⟩

def parse (buf : NlaBuffer) : Outcome InfoBondPort := do
  let payload ← value buf
  let kind ← PacketUtils.kind buf
  select kind [
    (IFLA_BOND_PORT_LINK_FAILURE_COUNT,
      .linkFailureCount <$>
        (parseU32 payload).context "invalid IFLA_BOND_PORT_LINK_FAILURE_COUNT value"),
    (IFLA_BOND_PORT_MII_STATUS,
      (.miiStatus ∘ MiiStatus.codec.ofNum) <$>
        (parseU8 payload).context "invalid IFLA_BOND_PORT_MII_STATUS value"),
    (IFLA_BOND_PORT_PERM_HWADDR, .ok (.permHwaddr payload)),
    Prod.mk IFLA_BOND_PORT_PRIO
      (.prio <$> (parseI32 payload).context "invalid IFLA_BOND_PORT_PRIO value"),
    (IFLA_BOND_PORT_QUEUE_ID,
      .queueId <$> (parseU16 payload).context "invalid IFLA_BOND_PORT_QUEUE_ID value"),
    (IFLA_BOND_PORT_STATE,
      (.bondPortState ∘ BondPortState.codec.ofNum) <$>
        (parseU8 payload).context "invalid IFLA_BOND_PORT_STATE value")]
    (.other <$> (defaultNla buf).context ("unknown NLA type " ++ toString kind))

end InfoBondPort

end

end NetlinkRoute
