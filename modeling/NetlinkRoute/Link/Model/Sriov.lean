import NetlinkRoute.Link.Model.Values
/-!
# Link — virtual functions

What a link reports of the virtual functions of its device. Every
structure here is read through an unchecked buffer, and every list builds
the text of its error from the payload taken for one attribute.
-/

namespace NetlinkRoute

open PacketUtils Emitter

/-! ## VLAN protocols -/

abbrev ETH_P_8021Q : UInt16 := 0x8100
abbrev ETH_P_8021AD : UInt16 := 0x88A8

/-- `VlanProtocol`: there is no place for other numbers. -/
inductive VlanProtocol where
  | ieee8021Q | ieee8021Ad
deriving DecidableEq

namespace VlanProtocol

/-- `From<u16> for VlanProtocol`. -/
def ofNum (d : UInt16) : VlanProtocol :=
  select d [(ETH_P_8021Q, .ieee8021Q), (ETH_P_8021AD, .ieee8021Ad)] .ieee8021Q

/-- `From<VlanProtocol> for u16`. -/
def toNum : VlanProtocol → UInt16
  | .ieee8021Q => ETH_P_8021Q
  | .ieee8021Ad => ETH_P_8021AD

/-- Both protocols come back from their numbers. -/
@[simp] theorem ofNum_toNum (p : VlanProtocol) : ofNum p.toNum = p := by
  cases p <;> rfl

end VlanProtocol

abbrev IFLA_VF_LINK_STATE_AUTO : UInt32 := 0
abbrev IFLA_VF_LINK_STATE_ENABLE : UInt32 := 1
abbrev IFLA_VF_LINK_STATE_DISABLE : UInt32 := 2

/-- `VfLinkState`. -/
inductive VfLinkState where
  | auto | enable | disable | other (d : UInt32)
deriving DecidableEq

/-- The numbers of `VfLinkState`. -/
def VfLinkState.codec : EnumCodec UInt32 VfLinkState where
  arms := [(IFLA_VF_LINK_STATE_AUTO, .auto), (IFLA_VF_LINK_STATE_ENABLE, .enable),
    (IFLA_VF_LINK_STATE_DISABLE, .disable)]
  other := .other
  toNum
    | .auto => IFLA_VF_LINK_STATE_AUTO | .enable => IFLA_VF_LINK_STATE_ENABLE
    | .disable => IFLA_VF_LINK_STATE_DISABLE | .other d => d
  toNum_arm := by decide
  toNum_other _ := rfl

/-! ## Structures -/

/-- `VfInfoMac`. -/
structure VfInfoMac where
  vfId : UInt32
  mac : Octets 32
deriving DecidableEq

/-- `VfInfoBroadcast`. -/
structure VfInfoBroadcast where
  addr : Octets 32
deriving DecidableEq

/-- `VfInfoLinkState`. -/
structure VfInfoLinkState where
  vfId : UInt32
  state : VfLinkState
deriving DecidableEq

/-- A setting of a virtual function that is on or off. -/
structure VfInfoSetting where
  vfId : UInt32
  enabled : Bool
deriving DecidableEq

/-- `VfVlanInfo`. -/
structure VfVlanInfo where
  vfId : UInt32
  vlanId : UInt32
  qos : UInt32
  protocol : VlanProtocol
deriving DecidableEq

section Structs

variable [Host]

/-- `VfInfoMacBuffer`. -/
def VfInfoMac.codec : StructCodec VfInfoMac where
  len := 36
  parse buf := do return { vfId := ← getU32 buf 0, mac := ← getOctets buf 4 32 }
  layout v := [(0, ne.u32 v.vfId), (4, v.mac.val)]
  tiles v := by simp [Tiles]
  length_layout v := by simp [v.mac.property]
  parse_layout v rest := by simp [getOctets_append]
  parse_of_le b hb := by
    simp (disch := exact fits_of_le hb rfl) only [getU32_of_le, getOctets_of_le, Outcome.ok_bind,
      Outcome.pure_eq]
    exact ⟨_, rfl⟩

/-- `VfInfoBroadcastBuffer`. -/
def VfInfoBroadcast.codec : StructCodec VfInfoBroadcast where
  len := 32
  parse buf := do return { addr := ← getOctets buf 0 32 }
  layout v := [(0, v.addr.val)]
  tiles v := by simp [Tiles]
  length_layout v := by simp [v.addr.property]
  parse_layout v rest := by simp
  parse_of_le b hb := by
    simp (disch := exact fits_of_le hb rfl) only [getOctets_of_le, Outcome.ok_bind, Outcome.pure_eq]
    exact ⟨_, rfl⟩

/-- `VfInfoVlan`. -/
structure VfInfoVlan where
  vfId : UInt32
  vlanId : UInt32
  qos : UInt32
deriving DecidableEq

/-- `VfInfoVlanBuffer`: getters and setters of `VfInfoVlan`. -/
def VfInfoVlan.codec : StructCodec VfInfoVlan where
  len := 12
  parse buf := do
    return {
      vfId := ← getU32 buf 0, vlanId := ← getU32 buf 4, qos := ← getU32 buf 8 }
  layout v := [
    (0, ne.u32 v.vfId), (4, ne.u32 v.vlanId), (8, ne.u32 v.qos)]
  tiles v := by simp [Tiles]
  length_layout v := by simp
  parse_layout v rest := by simp [getU32_append]
  parse_of_le b hb := by
    simp (disch := exact fits_of_le hb rfl) only [getU32_of_le, Outcome.ok_bind, Outcome.pure_eq]
    exact ⟨_, rfl⟩

/-- `VfInfoRate`. -/
structure VfInfoRate where
  vfId : UInt32
  minTxRate : UInt32
  maxTxRate : UInt32
deriving DecidableEq

/-- `VfInfoRateBuffer`: getters and setters of `VfInfoRate`. -/
def VfInfoRate.codec : StructCodec VfInfoRate where
  len := 12
  parse buf := do
    return {
      vfId := ← getU32 buf 0, minTxRate := ← getU32 buf 4, maxTxRate := ← getU32 buf 8 }
  layout v := [
    (0, ne.u32 v.vfId), (4, ne.u32 v.minTxRate), (8, ne.u32 v.maxTxRate)]
  tiles v := by simp [Tiles]
  length_layout v := by simp
  parse_layout v rest := by simp [getU32_append]
  parse_of_le b hb := by
    simp (disch := exact fits_of_le hb rfl) only [getU32_of_le, Outcome.ok_bind, Outcome.pure_eq]
    exact ⟨_, rfl⟩

/-- `VfInfoTxRate`. -/
structure VfInfoTxRate where
  vfId : UInt32
  rate : UInt32
deriving DecidableEq

/-- `VfInfoTxRateBuffer`: getters and setters of `VfInfoTxRate`. -/
def VfInfoTxRate.codec : StructCodec VfInfoTxRate where
  len := 8
  parse buf := do
    return {
      vfId := ← getU32 buf 0, rate := ← getU32 buf 4 }
  layout v := [
    (0, ne.u32 v.vfId), (4, ne.u32 v.rate)]
  tiles v := by simp [Tiles]
  length_layout v := by simp
  parse_layout v rest := by simp [getU32_append]
  parse_of_le b hb := by
    simp (disch := exact fits_of_le hb rfl) only [getU32_of_le, Outcome.ok_bind, Outcome.pure_eq]
    exact ⟨_, rfl⟩

/-- `VfInfoGuid`. -/
structure VfInfoGuid where
  vfId : UInt32
  guid : UInt64
deriving DecidableEq

/-- `VfInfoGuidBuffer`: getters and setters of `VfInfoGuid`. -/
def VfInfoGuid.codec : StructCodec VfInfoGuid where
  len := 12
  parse buf := do
    return {
      vfId := ← getU32 buf 0, guid := ← getU64 buf 4 }
  layout v := [
    (0, ne.u32 v.vfId), (4, ne.u64 v.guid)]
  tiles v := by simp [Tiles]
  length_layout v := by simp
  parse_layout v rest := by simp [getU64_append]
  parse_of_le b hb := by
    simp (disch := exact fits_of_le hb rfl) only [getU32_of_le, getU64_of_le, Outcome.ok_bind,
      Outcome.pure_eq]
    exact ⟨_, rfl⟩

/-- `VfInfoLinkStateBuffer`. -/
def VfInfoLinkState.codec : HeaderCodec VfInfoLinkState where
  len := 8
  parse buf := do
    return { vfId := ← getU32 buf 0, state := VfLinkState.codec.ofNum (← getU32 buf 4) }
  layout v := [(0, ne.u32 v.vfId), (4, ne.u32 (VfLinkState.codec.toNum v.state))]
  WellFormed v := VfLinkState.codec.Canonical v.state
  ascending v := by simp [Ascending]
  parse_layout v rest hw := by simp [gapped, getU32_append, hw.ofNum_toNum]
  parse_of_le b hb := by
    simp (disch := exact fits_of_le hb rfl) only [getU32_of_le, Outcome.ok_bind, Outcome.pure_eq]
    exact ⟨_, rfl, by simp⟩

/-- The buffer of a setting. All ones is the driver's answer that it does
not know. -/
def VfInfoSetting.codec : HeaderCodec VfInfoSetting where
  len := 8
  parse buf := do
    let vfId ← getU32 buf 0
    let setting ← getU32 buf 4
    return { vfId, enabled := decide (setting > 0) && setting != 0xffffffff }
  layout v := [(0, ne.u32 v.vfId), (4, ne.u32 v.enabled.toUInt32)]
  WellFormed _ := True
  ascending v := by simp [Ascending]
  parse_layout v rest _ := by
    obtain ⟨vfId, enabled⟩ := v
    simp only [gapped, getU32_append, Nat.sub_self, zeros_zero, List.nil_append, length_u32,
      Nat.zero_add, List.append_assoc, getU32_u32_append, Outcome.ok_bind, Nat.le_refl,
      Outcome.pure_eq]
    cases enabled <;> rfl
  parse_of_le b hb := by
    simp (disch := exact fits_of_le hb rfl) only [getU32_of_le, Outcome.ok_bind, Outcome.pure_eq]
    exact ⟨_, rfl, trivial⟩

/-- `VfInfoSpoofCheck`. -/
abbrev VfInfoSpoofCheck := VfInfoSetting

/-- `VfInfoRssQueryEn`. -/
abbrev VfInfoRssQueryEn := VfInfoSetting

/-- `VfInfoTrust`. -/
abbrev VfInfoTrust := VfInfoSetting

/-- `VfVlanInfoBuffer`. The protocol stands in network order, and the last
two bytes are padding. -/
def VfVlanInfo.codec : HeaderCodec VfVlanInfo where
  len := 16
  parse buf := do
    return {
      vfId := ← getU32 buf 0, vlanId := ← getU32 buf 4, qos := ← getU32 buf 8,
      protocol := VlanProtocol.ofNum (← getU16Be buf 12) }
  layout v := [
    (0, ne.u32 v.vfId), (4, ne.u32 v.vlanId), (8, ne.u32 v.qos), (12, be.u16 v.protocol.toNum)]
  WellFormed _ := True
  ascending v := by simp [Ascending]
  parse_layout v rest _ := by simp [gapped, getU32_append, getU16Be_append]
  parse_of_le b hb := by
    simp (disch := exact fits_of_le hb rfl) only [getU32_of_le, getU16Be_of_le, Outcome.ok_bind,
      Outcome.pure_eq]
    exact ⟨_, rfl, trivial⟩

end Structs

section Attributes

variable [PacketUtils]

/-! ## Counters and VLAN lists -/

abbrev IFLA_VF_STATS_RX_PACKETS : UInt16 := 0
abbrev IFLA_VF_STATS_TX_PACKETS : UInt16 := 1
abbrev IFLA_VF_STATS_RX_BYTES : UInt16 := 2
abbrev IFLA_VF_STATS_TX_BYTES : UInt16 := 3
abbrev IFLA_VF_STATS_BROADCAST : UInt16 := 4
abbrev IFLA_VF_STATS_MULTICAST : UInt16 := 5
abbrev IFLA_VF_STATS_RX_DROPPED : UInt16 := 7
abbrev IFLA_VF_STATS_TX_DROPPED : UInt16 := 8

/-- `VfStats`. -/
inductive VfStats where
  | rxPackets (v : UInt64)
  | txPackets (v : UInt64)
  | rxBytes (v : UInt64)
  | txBytes (v : UInt64)
  | broadcast (v : UInt64)
  | multicast (v : UInt64)
  | rxDropped (v : UInt64)
  | txDropped (v : UInt64)
  | other (v : DefaultNla)
deriving DecidableEq

namespace VfStats

def kind : VfStats → UInt16
  | .rxPackets _ => IFLA_VF_STATS_RX_PACKETS
  | .txPackets _ => IFLA_VF_STATS_TX_PACKETS
  | .rxBytes _ => IFLA_VF_STATS_RX_BYTES
  | .txBytes _ => IFLA_VF_STATS_TX_BYTES
  | .broadcast _ => IFLA_VF_STATS_BROADCAST
  | .multicast _ => IFLA_VF_STATS_MULTICAST
  | .rxDropped _ => IFLA_VF_STATS_RX_DROPPED
  | .txDropped _ => IFLA_VF_STATS_TX_DROPPED
  | .other v => v.kind

def valueLen : VfStats → ℕ
  | .other v => v.valueLen
  | _ => 8

def emitValue : VfStats → Emitter
  | .rxPackets v | .txPackets v | .rxBytes v | .txBytes v | .broadcast v | .multicast v
  | .rxDropped v | .txDropped v => .put 0 (ne.u64 v)
  | .other attr => attr.emitValue

/-- The attribute, as the attribute layer sees it. -/
def nla (a : VfStats) : Nla := ⟨a.valueLen, a.kind, a.emitValue⟩

def parse (buf : NlaBuffer) : Outcome VfStats := do
  let payload ← value buf
  let kind ← PacketUtils.kind buf
  select kind [
    (IFLA_VF_STATS_RX_PACKETS,
      .rxPackets <$>
        (parseU64 payload).context ("invalid IFLA_VF_STATS_RX_PACKETS value " ++ debug payload)),
    (IFLA_VF_STATS_TX_PACKETS,
      .txPackets <$>
        (parseU64 payload).context ("invalid IFLA_VF_STATS_TX_PACKETS value " ++ debug payload)),
    (IFLA_VF_STATS_RX_BYTES,
      .rxBytes <$>
        (parseU64 payload).context ("invalid IFLA_VF_STATS_RX_BYTES value " ++ debug payload)),
    (IFLA_VF_STATS_TX_BYTES,
      .txBytes <$>
        (parseU64 payload).context ("invalid IFLA_VF_STATS_TX_BYTES value " ++ debug payload)),
    (IFLA_VF_STATS_BROADCAST,
      .broadcast <$>
        (parseU64 payload).context ("invalid IFLA_VF_STATS_BROADCAST value " ++ debug payload)),
    (IFLA_VF_STATS_MULTICAST,
      .multicast <$>
        (parseU64 payload).context ("invalid IFLA_VF_STATS_MULTICAST value " ++ debug payload)),
    (IFLA_VF_STATS_RX_DROPPED,
      .rxDropped <$>
        (parseU64 payload).context ("invalid IFLA_VF_STATS_RX_DROPPED value " ++ debug payload)),
    (IFLA_VF_STATS_TX_DROPPED,
      .txDropped <$>
        (parseU64 payload).context ("invalid IFLA_VF_STATS_TX_DROPPED value " ++ debug payload))]
    (.other <$> (defaultNla buf).context
      ("failed to parse " ++ toString kind ++ " as DefaultNla: " ++ debug payload))

end VfStats

abbrev IFLA_VF_VLAN_INFO : UInt16 := 1

/-- `VfVlan`. -/
inductive VfVlan where
  | info (v : VfVlanInfo)
  | other (v : DefaultNla)
deriving DecidableEq

namespace VfVlan

def kind : VfVlan → UInt16
  | .info _ => IFLA_VF_VLAN_INFO
  | .other v => v.kind

def valueLen : VfVlan → ℕ
  | .info _ => VfVlanInfo.codec.len
  | .other v => v.valueLen

def emitValue : VfVlan → Emitter
  | .info v => VfVlanInfo.codec.emit v
  | .other attr => attr.emitValue

/-- The attribute, as the attribute layer sees it. -/
def nla (a : VfVlan) : Nla := ⟨a.valueLen, a.kind, a.emitValue⟩

def parse (buf : NlaBuffer) : Outcome VfVlan := do
  let payload ← value buf
  let kind ← PacketUtils.kind buf
  select kind [
    (IFLA_VF_VLAN_INFO,
      .info <$>
        (VfVlanInfo.codec.parse payload).context ("invalid IFLA_VF_VLAN_INFO " ++ debug payload))]
    (.other <$> (defaultNla buf).context
      ("failed to parse " ++ toString kind ++ " as DefaultNla: " ++ debug payload))

end VfVlan

/-! ## One function -/

abbrev IFLA_VF_MAC : UInt16 := 1
abbrev IFLA_VF_VLAN : UInt16 := 2
abbrev IFLA_VF_TX_RATE : UInt16 := 3
abbrev IFLA_VF_SPOOFCHK : UInt16 := 4
abbrev IFLA_VF_LINK_STATE : UInt16 := 5
abbrev IFLA_VF_RATE : UInt16 := 6
abbrev IFLA_VF_RSS_QUERY_EN : UInt16 := 7
abbrev IFLA_VF_STATS : UInt16 := 8
abbrev IFLA_VF_TRUST : UInt16 := 9
abbrev IFLA_VF_IB_NODE_GUID : UInt16 := 10
abbrev IFLA_VF_IB_PORT_GUID : UInt16 := 11
abbrev IFLA_VF_VLAN_LIST : UInt16 := 12
abbrev IFLA_VF_BROADCAST : UInt16 := 13

/-- `VfInfo`. -/
inductive VfInfo where
  | mac (v : VfInfoMac)
  | broadcast (v : VfInfoBroadcast)
  | vlan (v : VfInfoVlan)
  | rate (v : VfInfoRate)
  | txRate (v : VfInfoTxRate)
  | spoofCheck (v : VfInfoSpoofCheck)
  | linkState (v : VfInfoLinkState)
  | rssQueryEn (v : VfInfoRssQueryEn)
  | trust (v : VfInfoTrust)
  | ibNodeGuid (v : VfInfoGuid)
  | ibPortGuid (v : VfInfoGuid)
  | vlanList (v : List VfVlan)
  | stats (v : List VfStats)
  | other (v : DefaultNla)
deriving DecidableEq

namespace VfInfo

def kind : VfInfo → UInt16
  | .mac _ => IFLA_VF_MAC
  | .vlan _ => IFLA_VF_VLAN
  | .broadcast _ => IFLA_VF_BROADCAST
  | .rate _ => IFLA_VF_RATE
  | .txRate _ => IFLA_VF_TX_RATE
  | .spoofCheck _ => IFLA_VF_SPOOFCHK
  | .linkState _ => IFLA_VF_LINK_STATE
  | .rssQueryEn _ => IFLA_VF_RSS_QUERY_EN
  | .trust _ => IFLA_VF_TRUST
  | .ibNodeGuid _ => IFLA_VF_IB_NODE_GUID
  | .ibPortGuid _ => IFLA_VF_IB_PORT_GUID
  | .vlanList _ => IFLA_VF_VLAN_LIST
  | .stats _ => IFLA_VF_STATS
  | .other v => v.kind

def valueLen : VfInfo → ℕ
  | .mac _ => VfInfoMac.codec.len
  | .vlan _ => VfInfoVlan.codec.len
  | .broadcast _ => VfInfoBroadcast.codec.len
  | .rate _ => VfInfoRate.codec.len
  | .txRate _ => VfInfoTxRate.codec.len
  | .spoofCheck _ => VfInfoSetting.codec.len
  | .linkState _ => VfInfoLinkState.codec.len
  | .rssQueryEn _ => VfInfoSetting.codec.len
  | .trust _ => VfInfoSetting.codec.len
  | .ibNodeGuid _ => VfInfoGuid.codec.len
  | .ibPortGuid _ => VfInfoGuid.codec.len
  | .vlanList v => nlasLen (v.map VfVlan.nla)
  | .stats v => nlasLen (v.map VfStats.nla)
  | .other v => v.valueLen

def emitValue : VfInfo → Emitter
  | .mac v => VfInfoMac.codec.emit v
  | .vlan v => VfInfoVlan.codec.emit v
  | .broadcast v => VfInfoBroadcast.codec.emit v
  | .rate v => VfInfoRate.codec.emit v
  | .txRate v => VfInfoTxRate.codec.emit v
  | .spoofCheck v => VfInfoSetting.codec.emit v
  | .linkState v => VfInfoLinkState.codec.emit v
  | .rssQueryEn v => VfInfoSetting.codec.emit v
  | .trust v => VfInfoSetting.codec.emit v
  | .ibNodeGuid v => VfInfoGuid.codec.emit v
  | .ibPortGuid v => VfInfoGuid.codec.emit v
  | .vlanList v => emitNlas (v.map VfVlan.nla)
  | .stats v => emitNlas (v.map VfStats.nla)
  | .other attr => attr.emitValue

/-- The attribute, as the attribute layer sees it. -/
def nla (a : VfInfo) : Nla := ⟨a.valueLen, a.kind, a.emitValue⟩

def parse (buf : NlaBuffer) : Outcome VfInfo := do
  let payload ← value buf
  let kind ← PacketUtils.kind buf
  select kind [
    (IFLA_VF_MAC,
      .mac <$>
        (VfInfoMac.codec.parse payload).context ("invalid IFLA_VF_MAC " ++ debug payload)),
    (IFLA_VF_VLAN,
      .vlan <$>
        (VfInfoVlan.codec.parse payload).context ("invalid IFLA_VF_VLAN " ++ debug payload)),
    (IFLA_VF_BROADCAST,
      .broadcast <$>
        (VfInfoBroadcast.codec.parse payload).context
          ("invalid IFLA_VF_BROADCAST " ++ debug payload)),
    (IFLA_VF_RATE,
      .rate <$>
        (VfInfoRate.codec.parse payload).context ("invalid IFLA_VF_RATE " ++ debug payload)),
    (IFLA_VF_TX_RATE,
      .txRate <$>
        (VfInfoTxRate.codec.parse payload).context ("invalid IFLA_VF_TX_RATE " ++ debug payload)),
    (IFLA_VF_SPOOFCHK,
      .spoofCheck <$>
        (VfInfoSetting.codec.parse payload).context ("invalid IFLA_VF_SPOOFCHK " ++ debug payload)),
    (IFLA_VF_LINK_STATE,
      .linkState <$>
        (VfInfoLinkState.codec.parse payload).context
          ("invalid IFLA_VF_LINK_STATE " ++ debug payload)),
    (IFLA_VF_RSS_QUERY_EN,
      .rssQueryEn <$>
        (VfInfoSetting.codec.parse payload).context
          ("invalid IFLA_VF_RSS_QUERY_EN " ++ debug payload)),
    (IFLA_VF_TRUST,
      .trust <$>
        (VfInfoSetting.codec.parse payload).context ("invalid IFLA_VF_TRUST " ++ debug payload)),
    (IFLA_VF_IB_NODE_GUID,
      .ibNodeGuid <$>
        (VfInfoGuid.codec.parse payload).context
          ("invalid IFLA_VF_IB_NODE_GUID " ++ debug payload)),
    (IFLA_VF_IB_PORT_GUID,
      .ibPortGuid <$>
        (VfInfoGuid.codec.parse payload).context
          ("invalid IFLA_VF_IB_PORT_GUID " ++ debug payload)),
    (IFLA_VF_VLAN_LIST,
      .vlanList <$>
        parseEachWith ("invalid IFLA_VF_VLAN_LIST value: " ++ debug payload) VfVlan.parse payload),
    (IFLA_VF_STATS,
      .stats <$>
        parseEachWith ("invalid IFLA_VF_STATS value: " ++ debug payload) VfStats.parse payload)]
    (.other <$> (defaultNla buf).context
      ("failed to parse " ++ toString kind ++ " as DefaultNla: " ++ debug payload))

end VfInfo

/-! ## The list of functions -/

abbrev IFLA_VF_INFO : UInt16 := 1

/-- `LinkVfInfo`: what is known of one function. -/
structure LinkVfInfo where
  infos : List VfInfo
deriving DecidableEq

namespace LinkVfInfo

/-- The attribute, as the attribute layer sees it. -/
def nla (a : LinkVfInfo) : Nla :=
  ⟨nlasLen (a.infos.map VfInfo.nla), IFLA_VF_INFO, emitNlas (a.infos.map VfInfo.nla)⟩

def parse (buf : NlaBuffer) : Outcome LinkVfInfo :=
  mk <$> parseEachEager ((fun v => "invalid IFLA_VF_INFO value " ++ debug v) <$> value buf)
    VfInfo.parse buf.buffer

/-- `VecLinkVfInfo::parse`: other kinds are skipped. -/
def parseVec (buf : NlaBuffer) : Outcome (List LinkVfInfo) :=
  List.flatten <$> parseEachEager
    ((fun v => "invalid IFLA_VFINFO_LIST value: " ++ debug v) <$> value buf)
    (fun nla => do
      if (← PacketUtils.kind nla) = IFLA_VF_INFO then return [← parse ⟨← value nla⟩]
      else return []) buf.buffer

end LinkVfInfo

/-! ## Ports -/

abbrev IFLA_VF_PORT : UInt16 := 1

/-- `VfPort`. -/
abbrev VfPort := UnnamedNla

def VfPort.parse (buf : NlaBuffer) : Outcome VfPort :=
  UnnamedNla.parse (fun kind payload =>
    "failed to parse " ++ toString kind ++ " as DefaultNla: " ++ debug payload) buf

/-- `LinkVfPort`: what is known of one port. -/
structure LinkVfPort where
  ports : List VfPort
deriving DecidableEq

namespace LinkVfPort

/-- The attribute, as the attribute layer sees it. -/
def nla (a : LinkVfPort) : Nla :=
  ⟨nlasLen (a.ports.map UnnamedNla.nla), IFLA_VF_PORT, emitNlas (a.ports.map UnnamedNla.nla)⟩

def parse (buf : NlaBuffer) : Outcome LinkVfPort :=
  mk <$> parseEachEager ((fun v => "invalid IFLA_VF_PORT value " ++ debug v) <$> value buf)
    VfPort.parse buf.buffer

/-- `VecLinkVfPort::parse`: other kinds are skipped. -/
def parseVec (buf : NlaBuffer) : Outcome (List LinkVfPort) :=
  List.flatten <$> parseEachEager
    ((fun v => "invalid IFLA_VF_PORTS value: " ++ debug v) <$> value buf)
    (fun nla => do
      if (← PacketUtils.kind nla) = IFLA_VF_PORT then return [← parse ⟨← value nla⟩]
      else return []) buf.buffer

end LinkVfPort

end Attributes

end NetlinkRoute
