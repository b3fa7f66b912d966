import NetlinkRoute.Link.RoundTrip.Values
import NetlinkRoute.Link.RoundTrip.Kinds
import NetlinkRoute.Link.RoundTrip.Bridge
import NetlinkRoute.Link.RoundTrip.Bond
import NetlinkRoute.Link.Recursion
import NetlinkRoute.Common.Reference
/-!
# Link — the list of `IFLA_LINKINFO` comes back

What the decoder remembers from entry to entry, the list has to bring
with it: data follow the kind that they belong to. Such a list is
`LinkInfo.Consistent`, and what the decoder gives is one
(`VecLinkInfo.readFrom_parse`). Written and read again, a consistent list
comes back, except for the flags of a VXLAN, which come back as set
(`VecLinkInfo.exists_parse`).
-/

namespace NetlinkRoute

open PacketUtils Emitter

section

variable [PacketUtils] {payload : Bytes} {nb : NlaBuffer}

/-- A link message comes back: written into a zeroed buffer, it is decoded
as it was. -/
def LinkMessage.ComesBack (m : LinkMessage) : Prop :=
  ∃ out, Fills (emit m) (bufferLen m) out ∧ decode out = .ok m

omit [PacketUtils] in
theorem map_eq_self_iff {α : Type} {f : α → α} {l : List α} :
    l.map f = l ↔ ∀ a ∈ l, f a = a := by
  refine ⟨fun h => List.map_inj_left.1 (h.trans (List.map_id' l).symm), fun h => ?_⟩
  rw [List.map_congr_left h, List.map_id']

omit [PacketUtils] in
/-- Only a flag that is not set is received as another. -/
theorem InfoVxlan.received_eq_iff {a : InfoVxlan} :
    a.received = a ↔ a ≠ .gbp false ∧ a ≠ .gpe false ∧ a ≠ .remCsumNoPartial false := by
  cases a with
  | gbp v | gpe v | remCsumNoPartial v => cases v <;> simp [received]
  | _ => simp [received]

/-! ## Data of links -/

namespace InfoVeth

variable {a : InfoVeth}

/-- The attribute, as the attribute layer sees it. -/
def nla (a : InfoVeth) : Nla := ⟨a.valueLen, a.kind, a.emitValue⟩

/-- An unknown attribute is not of the kind of a peer. -/
def Canonical : InfoVeth → Prop
  | .peer _ => True
  | .other n => n.Unknown [VETH_INFO_PEER]

/-- The data of a pair comes back where its peer does. -/
theorem roundTrips (h : a.Canonical) (hpeer : ∀ m, a = .peer m → LinkMessage.ComesBack m) :
    RoundTrips (parse LinkMessage.decode) a.nla a := by
  cases a with
  | peer m =>
    obtain ⟨out, hout, hp⟩ := hpeer m rfl
    exact .of_arm hout VETH_INFO_PEER rfl rfl (by simp [hp])
  | other n => exact .of_default h

/-- What is read is canonical, and a peer is decoded from the payload. -/
theorem holds_parse (hv : NlaValid nb.buffer) : (parse LinkMessage.decode nb).Holds fun a =>
    a.Canonical ∧ ∀ m, a = .peer m → LinkMessage.decode (nlaValue nb.buffer) = .ok m := by
  refine hv.holds_parse ?_ fun _ hk => ⟨hk, by simp⟩
  simp only [List.forall_mem_singleton]
  intro a ha
  obtain ⟨m, hm, rfl⟩ := (Outcome.map_eq_ok _).1 ha
  rw [Outcome.context_eq_ok] at hm
  exact ⟨trivial, fun m' hm' => by cases hm'; exact hm⟩

end InfoVeth

namespace InfoData

variable {d : InfoData} {kind : InfoKind}

/-- So is every entry of the list. -/
def Canonical : InfoData → Prop
  | .bridge l => ∀ i ∈ l, i.Canonical
  | .vlan l => ∀ i ∈ l, i.Canonical
  | .veth v => v.Canonical
  | .vxlan l => ∀ i ∈ l, i.Canonical
  | .bond l => ∀ i ∈ l, i.Canonical
  | .ipVlan l => ∀ i ∈ l, i.Canonical
  | .ipVtap l => ∀ i ∈ l, i.Canonical
  | .macVlan l => ∀ i ∈ l, i.Canonical
  | .macVtap l => ∀ i ∈ l, i.Canonical
  | .vrf l => ∀ i ∈ l, i.Canonical
  | .ipoib l => ∀ i ∈ l, i.Canonical
  | .xfrm l => ∀ i ∈ l, i.Canonical
  | .macSec l => ∀ i ∈ l, i.Canonical
  | .hsr l => ∀ i ∈ l, i.Canonical
  | _ => True

/-- The kind of link that has this variant. -/
def SelectedBy : InfoData → InfoKind → Prop
  | .bridge _, kind => kind = .bridge
  | .tun _, kind => kind = .tun
  | .vlan _, kind => kind = .vlan
  | .veth _, kind => kind = .veth
  | .vxlan _, kind => kind = .vxlan
  | .bond _, kind => kind = .bond
  | .ipVlan _, kind => kind = .ipVlan
  | .ipVtap _, kind => kind = .ipVtap
  | .macVlan _, kind => kind = .macVlan
  | .macVtap _, kind => kind = .macVtap
  | .greTap _, kind => kind = .greTap
  | .greTap6 _, kind => kind = .greTap6
  | .sitTun _, kind => kind = .sitTun
  | .greTun _, kind => kind = .greTun
  | .greTun6 _, kind => kind = .greTun6
  | .vti _, kind => kind = .vti
  | .vrf _, kind => kind = .vrf
  | .gtp _, kind => kind = .gtp
  | .ipoib _, kind => kind = .ipoib
  | .xfrm _, kind => kind = .xfrm
  | .macSec _, kind => kind = .macSec
  | .hsr _, kind => kind = .hsr
  | .other _, kind => kind ∈ [.dummy, .ifb, .nlmon, .ipTun, .wireguard] ∨ ∃ s, kind = .other s

/-- What comes back: the flags of a VXLAN are set. -/
def received : InfoData → InfoData
  | .vxlan l => .vxlan (l.map InfoVxlan.received)
  | d => d

/-- A list is read back by the loop for its kind. -/
theorem exists_list {α ι : Type} {parse : NlaBuffer → Outcome α} {t : ι → Nla} {r : ι → α}
    {is : List ι} {l : List α} {w : List α → InfoData} {err : Bytes → String}
    (hrt : ∀ i ∈ is, (t i).valueLen ≤ 65531 → RoundTrips parse (t i) (r i)) (hl : is.map r = l)
    (hs : nlasLen (is.map t) ≤ 65531) :
    ∃ out, Fills (emitNlas (is.map t)) (nlasLen (is.map t)) out ∧
      w <$> parseEachWith (err out) parse out = .ok (w l) := by
  obtain ⟨out, hout, hread⟩ := exists_readsAs hrt hs
  refine ⟨out, hout, ?_⟩
  rw [hread.parseEachWith_eq, hl]
  rfl

/-- **The data of a link come back** under the kind that selects them. -/
theorem exists_parse (h : d.Canonical) (hk : d.SelectedBy kind) (hs : d.valueLen ≤ 65531)
    (hpeer : ∀ m, d = .veth (.peer m) → LinkMessage.ComesBack m) :
    ∃ out, Fills d.emitValue d.valueLen out ∧
      parseWithParam LinkMessage.decode out kind = .ok d.received := by
  cases d with
  | bridge l =>
    cases hk
    exact exists_list (t := InfoBridge.nla) (w := .bridge)
      (fun i hi hi' => InfoBridge.roundTrips (h i hi) hi') (List.map_id l) hs
  | tun l =>
    cases hk
    exact exists_list (t := UnnamedNla.nla) (w := .tun)
      (fun i _ _ => UnnamedNla.roundTrips) (List.map_id l) hs
  | vlan l =>
    cases hk
    exact exists_list (t := InfoVlan.nla) (w := .vlan)
      (fun i hi hi' => InfoVlan.roundTrips (h i hi) hi') (List.map_id l) hs
  | veth v =>
    cases hk
    -- the one attribute of a virtual pair is written with its padding
    have hle : v.nla.valueLen ≤ 65531 := by
      have := le_nlaAlign v.valueLen
      have hs : nlaAlign v.valueLen + 4 ≤ 65531 := hs
      show v.valueLen ≤ 65531
      omega
    have hrt : RoundTrips (InfoVeth.parse LinkMessage.decode) v.nla v :=
      InfoVeth.roundTrips h fun m hm => hpeer m (by rw [hm])
    obtain ⟨out, hout, hv, hp⟩ := hrt.exists_emitNla hle
    exact ⟨out, hout, by simp [parseWithParam, newChecked_of_valid hv, hp, received]⟩
  | vxlan l =>
    cases hk
    exact exists_list (t := InfoVxlan.nla) (w := .vxlan)
      (fun i hi _ => InfoVxlan.roundTrips (h i hi)) rfl hs
  | bond l =>
    cases hk
    exact exists_list (t := InfoBond.nla) (w := .bond)
      (fun i hi hi' => InfoBond.roundTrips (h i hi) hi') (List.map_id l) hs
  | ipVlan l =>
    cases hk
    exact exists_list (t := InfoIpVlan.nla) (w := .ipVlan)
      (fun i hi _ => InfoIpVlan.roundTrips (h i hi)) (List.map_id l) hs
  | ipVtap l =>
    cases hk
    exact exists_list (t := InfoIpVlan.nla) (w := .ipVtap)
      (fun i hi _ => InfoIpVlan.roundTrips (h i hi)) (List.map_id l) hs
  | macVlan l =>
    cases hk
    exact exists_list (t := InfoMacVlan.nla) (w := .macVlan)
      (fun i hi hi' => InfoMacVlan.roundTrips (h i hi) hi') (List.map_id l) hs
  | macVtap l =>
    cases hk
    exact exists_list (t := InfoMacVlan.nla) (w := .macVtap)
      (fun i hi hi' => InfoMacVlan.roundTrips (h i hi) hi') (List.map_id l) hs
  | greTap l =>
    cases hk
    exact exists_list (t := UnnamedNla.nla) (w := .greTap)
      (fun i _ _ => UnnamedNla.roundTrips) (List.map_id l) hs
  | greTap6 l =>
    cases hk
    exact exists_list (t := UnnamedNla.nla) (w := .greTap6)
      (fun i _ _ => UnnamedNla.roundTrips) (List.map_id l) hs
  | sitTun l =>
    cases hk
    exact exists_list (t := UnnamedNla.nla) (w := .sitTun)
      (fun i _ _ => UnnamedNla.roundTrips) (List.map_id l) hs
  | greTun l =>
    cases hk
    exact exists_list (t := UnnamedNla.nla) (w := .greTun)
      (fun i _ _ => UnnamedNla.roundTrips) (List.map_id l) hs
  | greTun6 l =>
    cases hk
    exact exists_list (t := UnnamedNla.nla) (w := .greTun6)
      (fun i _ _ => UnnamedNla.roundTrips) (List.map_id l) hs
  | vti l =>
    cases hk
    exact exists_list (t := UnnamedNla.nla) (w := .vti)
      (fun i _ _ => UnnamedNla.roundTrips) (List.map_id l) hs
  | vrf l =>
    cases hk
    exact exists_list (t := InfoVrf.nla) (w := .vrf)
      (fun i hi _ => InfoVrf.roundTrips (h i hi)) (List.map_id l) hs
  | gtp l =>
    cases hk
    exact exists_list (t := UnnamedNla.nla) (w := .gtp)
      (fun i _ _ => UnnamedNla.roundTrips) (List.map_id l) hs
  | ipoib l =>
    cases hk
    exact exists_list (t := InfoIpoib.nla) (w := .ipoib)
      (fun i hi _ => InfoIpoib.roundTrips (h i hi)) (List.map_id l) hs
  | xfrm l =>
    cases hk
    exact exists_list (t := InfoXfrm.nla) (w := .xfrm)
      (fun i hi _ => InfoXfrm.roundTrips (h i hi)) (List.map_id l) hs
  | macSec l =>
    cases hk
    exact exists_list (t := InfoMacSec.nla) (w := .macSec)
      (fun i hi _ => InfoMacSec.roundTrips (h i hi)) (List.map_id l) hs
  | hsr l =>
    cases hk
    exact exists_list (t := InfoHsr.nla) (w := .hsr)
      (fun i hi _ => InfoHsr.roundTrips (h i hi)) (List.map_id l) hs
  | other v =>
    refine ⟨v, writes_bytes.fills, ?_⟩
    obtain hk | ⟨s, rfl⟩ := hk
    · simp only [List.mem_cons, List.not_mem_nil, or_false] at hk
      rcases hk with rfl | rfl | rfl | rfl | rfl <;> rfl
    · rfl

/-- What is known of data that were read: they are canonical, of the
variant that the kind selects, and come back as they are; and a peer was
decoded from fewer bytes. -/
structure ReadFrom (payload : Bytes) (kind : InfoKind) (d : InfoData) : Prop where
  canonical : d.Canonical
  selected : d.SelectedBy kind
  received_eq : d.received = d
  peer : ∀ m, d = .veth (.peer m) →
    ∃ b : Bytes, b.length < payload.length ∧ LinkMessage.decode b = .ok m

/-- What holds of each attribute of link data holds of the data. -/
theorem holds_list {α : Type} {parse : NlaBuffer → Outcome α} {P : α → Prop} {err : String}
    {wrap : List α → InfoData} (hparse : ∀ nb : NlaBuffer, NlaValid nb.buffer → (parse nb).Holds P)
    (hread : ∀ l, (∀ i ∈ l, P i) → ReadFrom payload kind (wrap l)) :
    (wrap <$> parseEachWith err parse payload).Holds (ReadFrom payload kind) :=
  Outcome.holds_map.2 ((holds_parseEachWith fun nb hnb => hparse nb (valid_of_mem_nlas hnb)).mono
    hread)

/-- Link data is read from the payload it stood in, by the kind before it. -/
theorem holds_parse : (parseWithParam LinkMessage.decode payload kind).Holds
    (ReadFrom payload kind) := by
  cases kind with
  | bridge =>
    exact holds_list (fun _ => InfoBridge.holds_parse) fun l hl => ⟨hl, rfl, rfl, by simp⟩
  | tun =>
    exact holds_list (fun _ _ => Outcome.holds_true) fun l _ => ⟨trivial, rfl, rfl, by simp⟩
  | vlan =>
    exact holds_list (fun _ => InfoVlan.holds_parse) fun l hl => ⟨hl, rfl, rfl, by simp⟩
  | veth =>
    -- the payload is one attribute, whose own payload is shorter
    by_cases hv : NlaValid payload
    · have hv' : NlaValid (NlaBuffer.mk payload).buffer := hv
      simp only [parseWithParam, newChecked_of_valid hv, Outcome.context_ok, Outcome.ok_bind]
      refine Outcome.holds_map.2 ((InfoVeth.holds_parse hv').mono fun a ha => ?_)
      refine ⟨ha.1, rfl, rfl, fun m hm => ⟨nlaValue payload, ?_, ha.2 m (by simpa using hm)⟩⟩
      have hlen := hv.length_value
      have hle := hv.2
      omega
    · obtain ⟨e, he⟩ := newChecked_of_not_valid hv
      simp [parseWithParam, he]
  | vxlan =>
    refine holds_list (fun _ => InfoVxlan.holds_parse) fun l hl => ?_
    have hmap : l.map InfoVxlan.received = l := by
      rw [List.map_congr_left fun i hi => (hl i hi).2, List.map_id']
    exact ⟨fun i hi => (hl i hi).1, rfl, by rw [received, hmap], by simp⟩
  | bond =>
    exact holds_list (fun _ => InfoBond.holds_parse) fun l hl => ⟨hl, rfl, rfl, by simp⟩
  | ipVlan =>
    exact holds_list (fun _ => InfoIpVlan.holds_parse) fun l hl => ⟨hl, rfl, rfl, by simp⟩
  | ipVtap =>
    exact holds_list (fun _ => InfoIpVlan.holds_parse) fun l hl => ⟨hl, rfl, rfl, by simp⟩
  | macVlan =>
    exact holds_list (fun _ => InfoMacVlan.holds_parse) fun l hl => ⟨hl, rfl, rfl, by simp⟩
  | macVtap =>
    exact holds_list (fun _ => InfoMacVlan.holds_parse) fun l hl => ⟨hl, rfl, rfl, by simp⟩
  | greTap =>
    exact holds_list (fun _ _ => Outcome.holds_true) fun l _ => ⟨trivial, rfl, rfl, by simp⟩
  | greTap6 =>
    exact holds_list (fun _ _ => Outcome.holds_true) fun l _ => ⟨trivial, rfl, rfl, by simp⟩
  | sitTun =>
    exact holds_list (fun _ _ => Outcome.holds_true) fun l _ => ⟨trivial, rfl, rfl, by simp⟩
  | greTun =>
    exact holds_list (fun _ _ => Outcome.holds_true) fun l _ => ⟨trivial, rfl, rfl, by simp⟩
  | greTun6 =>
    exact holds_list (fun _ _ => Outcome.holds_true) fun l _ => ⟨trivial, rfl, rfl, by simp⟩
  | vti =>
    exact holds_list (fun _ _ => Outcome.holds_true) fun l _ => ⟨trivial, rfl, rfl, by simp⟩
  | vrf =>
    exact holds_list (fun _ => InfoVrf.holds_parse) fun l hl => ⟨hl, rfl, rfl, by simp⟩
  | gtp =>
    exact holds_list (fun _ _ => Outcome.holds_true) fun l _ => ⟨trivial, rfl, rfl, by simp⟩
  | ipoib =>
    exact holds_list (fun _ => InfoIpoib.holds_parse) fun l hl => ⟨hl, rfl, rfl, by simp⟩
  | xfrm =>
    exact holds_list (fun _ => InfoXfrm.holds_parse) fun l hl => ⟨hl, rfl, rfl, by simp⟩
  | macSec =>
    exact holds_list (fun _ => InfoMacSec.holds_parse) fun l hl => ⟨hl, rfl, rfl, by simp⟩
  | hsr =>
    exact holds_list (fun _ => InfoHsr.holds_parse) fun l hl => ⟨hl, rfl, rfl, by simp⟩
  | dummy | ifb | nlmon | ipTun | wireguard =>
    exact (Outcome.holds_ok _).2 ⟨trivial, .inl (by simp), rfl, by simp⟩
  | other s => exact (Outcome.holds_ok _).2 ⟨trivial, .inr ⟨s, rfl⟩, rfl, by simp⟩

end InfoData

/-! ## Data of ports -/

namespace InfoPortData

variable {d : InfoPortData} {kind : InfoPortKind}

/-- So is every entry of the list. -/
def Canonical : InfoPortData → Prop
  | .bondPort l => ∀ i ∈ l, i.Canonical
  | .bridgePort l => ∀ i ∈ l, i.Canonical
  | .vrfPort l => ∀ i ∈ l, i.Canonical
  | .other _ => True

/-- The kind of port that has this variant. -/
def SelectedBy : InfoPortData → InfoPortKind → Prop
  | .bondPort _, kind => kind = .bond
  | .bridgePort _, kind => kind = .bridge
  | .vrfPort _, kind => kind = .vrf
  | .other _, kind => ∃ s, kind = .other s

/-- Port data comes back under the kind that selects it. -/
theorem exists_parse (h : d.Canonical) (hk : d.SelectedBy kind) (hs : d.valueLen ≤ 65531) :
    ∃ out, Fills d.emitValue d.valueLen out ∧ parseWithParam out kind = .ok d := by
  cases d with
  | bondPort l =>
    cases hk
    obtain ⟨out, hout, hread⟩ := exists_readsAs (t := InfoBondPort.nla) (r := id)
      (fun i hi _ => InfoBondPort.roundTrips (h i hi)) hs
    exact ⟨out, hout, by simp [parseWithParam, hread.parseEach_eq]⟩
  | bridgePort l =>
    cases hk
    obtain ⟨out, hout, hread⟩ := exists_readsAs (t := InfoBridgePort.nla) (r := id)
      (fun i hi _ => InfoBridgePort.roundTrips (h i hi)) hs
    exact ⟨out, hout, by simp [parseWithParam, hread.parseEach_eq]⟩
  | vrfPort l =>
    cases hk
    obtain ⟨out, hout, hread⟩ := exists_readsAs (t := InfoVrf.nla) (r := id)
      (fun i hi _ => InfoVrf.roundTrips (h i hi)) hs
    exact ⟨out, hout, by simp [parseWithParam, hread.parseEach_eq]⟩
  | other v =>
    obtain ⟨s, rfl⟩ := hk
    exact ⟨v, writes_bytes.fills, rfl⟩

/-- Port data is canonical and of the kind before it. -/
theorem holds_parse : (parseWithParam payload kind).Holds
    fun d => d.Canonical ∧ d.SelectedBy kind := by
  cases kind with
  | bond =>
    exact (Outcome.holds_context _).2 (Outcome.holds_map.2 ((holds_parseEach fun _ hnb =>
      InfoBondPort.holds_parse (valid_of_mem_nlas hnb)).mono fun l hl => ⟨hl, rfl⟩))
  | bridge =>
    exact (Outcome.holds_context _).2 (Outcome.holds_map.2 ((holds_parseEach fun _ hnb =>
      InfoBridgePort.holds_parse (valid_of_mem_nlas hnb)).mono fun l hl => ⟨hl, rfl⟩))
  | vrf =>
    exact (Outcome.holds_context _).2 (Outcome.holds_map.2 ((holds_parseEach fun _ hnb =>
      InfoVrf.holds_parse (valid_of_mem_nlas hnb)).mono fun l hl => ⟨hl, rfl⟩))
  | other s => exact (Outcome.holds_context _).2 ((Outcome.holds_ok _).2 ⟨trivial, s, rfl⟩)

end InfoPortData

/-! ## Entries -/

/-- A canonical kind is read back from its text. -/
@[simp] theorem InfoKind.parse_of_carries {k : InfoKind} (h : codec.Canonical k)
    (hc : Carries nb IFLA_INFO_KIND (utf8 (codec.toNum k) ++ [0])) : parse nb = .ok k := by
  have hmask : IFLA_INFO_KIND &&& NLA_TYPE_MASK = IFLA_INFO_KIND := by decide
  rw [parse, hc.kind, hmask, hc.value]
  simp [h.ofNum_toNum]

theorem InfoKind.holds_parse (hv : NlaValid nb.buffer) : (parse nb).Holds codec.Canonical := by
  rw [parse, hv.carries.kind, hv.carries.value]
  simp only [Outcome.ok_bind]
  split <;> simp

/-- So is a port kind. -/
@[simp] theorem InfoPortKind.parse_of_carries {k : InfoPortKind} (h : codec.Canonical k)
    (hc : Carries nb IFLA_INFO_PORT_KIND (utf8 (codec.toNum k) ++ [0])) : parse nb = .ok k := by
  have hmask : IFLA_INFO_PORT_KIND &&& NLA_TYPE_MASK = IFLA_INFO_PORT_KIND := by decide
  rw [parse, hc.kind, hmask, hc.value]
  simp [h.ofNum_toNum]

theorem InfoPortKind.holds_parse (hv : NlaValid nb.buffer) : (parse nb).Holds codec.Canonical := by
  rw [parse, hv.carries.kind, hv.carries.value]
  simp only [Outcome.ok_bind]
  split <;> simp

namespace LinkInfo

variable {mem : Memory} {i : LinkInfo} {l : List LinkInfo}

/-- The recursion over link info is the ordinary map. -/
theorem nlas_eq (l : List LinkInfo) : nlas l = l.map nla := by
  induction l with
  | nil => rfl
  | cons i l ih => rw [nlas, ih, List.map_cons, nla]

/-- Its lengths add up as those of any list of attributes. -/
theorem bufferLenSum_eq (l : List LinkInfo) : bufferLenSum l = nlasLen (l.map nla) := by
  induction l with
  | nil => rfl
  | cons i l ih =>
    rw [bufferLenSum, ih, List.map_cons, nlasLen_cons]
    rfl

/-- The kinds the decoder names. -/
def kinds : List UInt16 :=
  [IFLA_INFO_XSTATS, IFLA_INFO_PORT_KIND, IFLA_INFO_PORT_DATA, IFLA_INFO_KIND, IFLA_INFO_DATA]

omit [PacketUtils] in
/-- The kind words of link info carry no flag. -/
theorem mask_of_mem : ∀ k ∈ kinds, k &&& NLA_TYPE_MASK = k := by
  intro k hk
  simp only [kinds, List.mem_cons, List.not_mem_nil, or_false] at hk
  rcases hk with rfl | rfl | rfl | rfl | rfl
  all_goals decide

/-- What is remembered behind an entry. -/
def after (mem : Memory) : LinkInfo → Memory
  | .infoKind kind => { mem with linkInfoKind := some kind }
  | .portKind kind => { mem with linkInfoPortKind := some kind }
  | .portData _ => { mem with linkInfoPortKind := none }
  | _ => mem

/-- An entry belongs where this is remembered: there is a kind in front of
statistics, data are of the variant that the kind in front of them
selects; enumerations are canonical, and an unknown entry is of none of
the kinds the decoder names. -/
def Fits (mem : Memory) : LinkInfo → Prop
  | .xstats _ => mem.linkInfoKind ≠ none
  | .infoKind kind => InfoKind.codec.Canonical kind
  | .data d => d.Canonical ∧ ∃ kind, mem.linkInfoKind = some kind ∧ d.SelectedBy kind
  | .portKind kind => InfoPortKind.codec.Canonical kind
  | .portData d => d.Canonical ∧ ∃ kind, mem.linkInfoPortKind = some kind ∧ d.SelectedBy kind
  | .other n => n.Unknown kinds

/-- Each entry fits what those in front of it leave, and the peers of
virtual pairs come back. -/
structure Consistent (l : List LinkInfo) : Prop where
  threaded : Threaded Fits after {} l
  peer : ∀ m, .data (.veth (.peer m)) ∈ l → LinkMessage.ComesBack m

/-- What comes back: the flags of a VXLAN are set. -/
def received : LinkInfo → LinkInfo
  | .data d => .data d.received
  | i => i

/-- **The turn of the decoder reads an entry back** that fits. -/
theorem roundTrips (h : Fits mem i) (hs : i.valueLen ≤ 65531)
    (hpeer : ∀ m, i = .data (.veth (.peer m)) → LinkMessage.ComesBack m) :
    RoundTrips (step LinkMessage.decode mem) i.nla (after mem i, i.received) := by
  cases i with
  | xstats v =>
    -- statistics are read only behind a kind, which is in memory
    obtain ⟨kind, hkind⟩ := Option.ne_none_iff_exists'.1 h
    refine writes_bytes.roundTrips fun nb hc => ?_
    have hk : (LinkInfo.xstats v).nla.kind &&& NLA_TYPE_MASK = IFLA_INFO_XSTATS :=
      mask_of_mem IFLA_INFO_XSTATS (by decide)
    rw [step, hc.kind, hk, Outcome.ok_bind, hc.value]
    exact (select_of_find rfl).trans (by simp [hkind, after, received])
  | infoKind kind =>
    refine writes_emitStringNul.roundTrips fun nb hc => ?_
    have hk : (LinkInfo.infoKind kind).nla.kind &&& NLA_TYPE_MASK = IFLA_INFO_KIND :=
      mask_of_mem IFLA_INFO_KIND (by decide)
    rw [step, hc.kind, hk, Outcome.ok_bind, InfoKind.parse_of_carries h hc]
    exact (select_of_find rfl).trans (by simp [after, received])
  | data d =>
    obtain ⟨hd, kind, hkind, hsel⟩ := h
    obtain ⟨out, hout, hp⟩ := InfoData.exists_parse hd hsel hs fun m hm => hpeer m (by rw [hm])
    refine ⟨out, hout, fun nb hc => ?_⟩
    have hk : (LinkInfo.data d).nla.kind &&& NLA_TYPE_MASK = IFLA_INFO_DATA :=
      mask_of_mem IFLA_INFO_DATA (by decide)
    rw [step, hc.kind, hk, Outcome.ok_bind, hc.value]
    exact (select_of_find rfl).trans (by simp [hkind, hp, after, received])
  | portKind kind =>
    refine writes_emitStringNul.roundTrips fun nb hc => ?_
    have hk : (LinkInfo.portKind kind).nla.kind &&& NLA_TYPE_MASK = IFLA_INFO_PORT_KIND :=
      mask_of_mem IFLA_INFO_PORT_KIND (by decide)
    rw [step, hc.kind, hk, Outcome.ok_bind, InfoPortKind.parse_of_carries h hc]
    exact (select_of_find rfl).trans (by simp [after, received])
  | portData d =>
    obtain ⟨hd, kind, hkind, hsel⟩ := h
    obtain ⟨out, hout, hp⟩ := InfoPortData.exists_parse hd hsel hs
    refine ⟨out, hout, fun nb hc => ?_⟩
    have hk : (LinkInfo.portData d).nla.kind &&& NLA_TYPE_MASK = IFLA_INFO_PORT_DATA :=
      mask_of_mem IFLA_INFO_PORT_DATA (by decide)
    rw [step, hc.kind, hk, Outcome.ok_bind, hc.value]
    exact (select_of_find rfl).trans
      (by simp [hkind, hp, after, received])
  | other n =>
    refine writes_bytes.roundTrips fun nb hc => ?_
    rw [step, hc.kind, Outcome.ok_bind, select_default (by exact h), hc.defaultNla]
    rfl

/-- What is known of an entry that was read: it fits, it comes back as it
is, and a peer was decoded from fewer bytes. -/
structure ReadFrom (payload : Bytes) (mem : Memory) (i : LinkInfo) : Prop where
  fits : Fits mem i
  received_eq : i.received = i
  peer : ∀ m, i = .data (.veth (.peer m)) →
    ∃ b : Bytes, b.length < payload.length ∧ LinkMessage.decode b = .ok m

/-- What was read from a payload is read from a longer one too. -/
theorem ReadFrom.mono {payload' : Bytes} (h : ReadFrom payload mem i)
    (hle : payload.length ≤ payload'.length) : ReadFrom payload' mem i := by
  refine ⟨h.fits, h.received_eq, fun m hm => ?_⟩
  obtain ⟨b, hb, hp⟩ := h.peer m hm
  exact ⟨b, by omega, hp⟩

/-- A step gives what it read and the memory that follows from it. -/
theorem holds_step (hv : NlaValid nb.buffer) : (step LinkMessage.decode mem nb).Holds fun r =>
    ReadFrom (nlaValue nb.buffer) mem r.2 ∧ r.1 = after mem r.2 := by
  rw [step, hv.carries.kind, Outcome.ok_bind, hv.carries.value]
  refine holds_select ?_ fun hk => ?_
  · simp only [List.forall_mem_cons, List.not_mem_nil, IsEmpty.forall_iff, implies_true, and_true]
    refine ⟨?_, ?_, ?_, ?_, ?_⟩
    · split
      · next hkind =>
        refine (Outcome.holds_ok _).2 ⟨⟨?_, rfl, by simp⟩, rfl⟩
        simp [Fits, hkind]
      · simp
    · refine Outcome.holds_bind.2 fun kind hkind => (Outcome.holds_ok _).2 ⟨?_, rfl⟩
      exact ⟨InfoPortKind.holds_parse hv kind hkind, rfl, by simp⟩
    · split
      · next port hport =>
        rw [Outcome.ok_bind]
        refine Outcome.holds_bind.2 fun d hd => (Outcome.holds_ok _).2 ⟨?_, rfl⟩
        obtain ⟨hcan, hsel⟩ := InfoPortData.holds_parse d hd
        exact ⟨⟨hcan, port, hport, hsel⟩, rfl, by simp⟩
      · simp
    · refine Outcome.holds_bind.2 fun kind hkind => (Outcome.holds_ok _).2 ⟨?_, rfl⟩
      exact ⟨InfoKind.holds_parse hv kind hkind, rfl, by simp⟩
    · split
      · next link hlink =>
        rw [Outcome.ok_bind]
        refine Outcome.holds_bind.2 fun d hd => (Outcome.holds_ok _).2 ⟨?_, rfl⟩
        have hread := InfoData.holds_parse d hd
        exact ⟨⟨hread.canonical, link, hlink, hread.selected⟩, congrArg data hread.received_eq,
          fun m hm => hread.peer m (by simpa using hm)⟩
      · simp
  · rw [hv.carries.defaultNla]
    exact (Outcome.holds_ok _).2 ⟨⟨hk, rfl, by simp⟩, rfl⟩

end LinkInfo

/-! ## The list -/

namespace VecLinkInfo

variable {l : List LinkInfo}

/-- **A consistent list is read back**, its VXLAN flags as set. -/
theorem exists_parse (h : LinkInfo.Consistent l) (hs : ∀ i ∈ l, i.valueLen ≤ 65531) :
    ∃ out, Fills (emitNlas (l.map LinkInfo.nla)) (nlasLen (l.map LinkInfo.nla)) out ∧
      parse out = .ok (l.map LinkInfo.received) := by
  have hstep : ∀ mem, ∀ i ∈ l, LinkInfo.Fits mem i →
      RoundTrips (LinkInfo.step LinkMessage.decode mem) i.nla
        (LinkInfo.after mem i, i.received) := by
    intro mem i hi hfits
    exact LinkInfo.roundTrips hfits (hs i hi) fun m hm => h.peer m (hm ▸ hi)
  exact exists_forEachFrom_emitted hstep h.threaded hs

/-- What is known of a list that was read: each entry fits where it
stands and comes back as it is, and peers were decoded from fewer bytes. -/
structure ReadFrom (payload : Bytes) (l : List LinkInfo) : Prop where
  threaded : Threaded LinkInfo.Fits LinkInfo.after {} l
  received_eq : l.map LinkInfo.received = l
  peer : ∀ m, .data (.veth (.peer m)) ∈ l →
    ∃ b : Bytes, b.length < payload.length ∧ LinkMessage.decode b = .ok m

/-- **The decoder builds consistent lists**: whatever is accepted was read
item by item, each by the kinds before it. -/
theorem holds_parse : (parse payload).Holds (ReadFrom payload) := by
  intro l hl
  have hstep : ∀ mem, ∀ o ∈ nlas payload, Outcome.Holds
      (fun r : LinkInfo.Memory × LinkInfo =>
        LinkInfo.ReadFrom payload mem r.2 ∧ r.1 = LinkInfo.after mem r.2)
      (do LinkInfo.step LinkMessage.decode mem (← o)) := by
    intro mem o ho
    cases o with
    | ok nb =>
      have hlt := length_value_lt_of_mem_nlas ho
      refine (LinkInfo.holds_step (valid_of_mem_nlas ho)).mono fun r hr => ⟨?_, hr.2⟩
      exact hr.1.mono (by omega)
    | err e => simp
    | panic => simp
  have hentries := holds_forEachFrom (P := fun i => ∃ mem, LinkInfo.ReadFrom payload mem i)
    (fun mem o ho => (hstep mem o ho).mono fun r hr => ⟨mem, hr.1⟩) l hl
  refine ⟨threaded_of_forEachFrom (fun mem o ho => (hstep mem o ho).mono fun r hr =>
    ⟨hr.1.fits, hr.2⟩) hl, ?_, fun m hm => ?_⟩
  · have hrec : ∀ i ∈ l, i.received = i := by
      intro i hi
      obtain ⟨mem, hread⟩ := hentries i hi
      exact hread.received_eq
    rw [List.map_congr_left hrec, List.map_id']
  · obtain ⟨mem, hread⟩ := hentries _ hm
    exact hread.peer m rfl

/-- **A consistent list comes back exactly when no VXLAN flag in it is
cleared.** Such a flag is written as if it were set. -/
theorem comesBack_iff (h : LinkInfo.Consistent l) (hs : ∀ i ∈ l, i.valueLen ≤ 65531) :
    (∃ out, (emitNlas (l.map LinkInfo.nla)).run (zeros (nlasLen (l.map LinkInfo.nla))) = .ok out ∧
      parse out = .ok l) ↔
      ∀ as, .data (.vxlan as) ∈ l →
        .gbp false ∉ as ∧ .gpe false ∉ as ∧ .remCsumNoPartial false ∉ as := by
  obtain ⟨out, hout, hp⟩ := exists_parse h hs
  -- the bytes are determined, and read as the list with its flags set
  have hself : (∃ out, (emitNlas (l.map LinkInfo.nla)).run
      (zeros (nlasLen (l.map LinkInfo.nla))) = .ok out ∧ parse out = .ok l) ↔
        l.map LinkInfo.received = l := by
    constructor
    · rintro ⟨out', hout', hp'⟩
      rw [hout] at hout'
      cases hout'
      rw [hp] at hp'
      exact Outcome.ok.inj hp'
    · intro hl
      exact ⟨out, hout, by rw [hp, hl]⟩
  rw [hself, map_eq_self_iff]
  constructor
  · intro hl as has
    have hmap : as.map InfoVxlan.received = as := by
      simpa [LinkInfo.received, InfoData.received] using hl _ has
    have hflag : ∀ a ∈ as, a.received = a := map_eq_self_iff.1 hmap
    refine ⟨fun ha => ?_, fun ha => ?_, fun ha => ?_⟩ <;>
      simpa [InfoVxlan.received] using hflag _ ha
  · intro hflags i hi
    cases i with
    | data d =>
      cases d with
      | vxlan as =>
        obtain ⟨hgbp, hgpe, hcsum⟩ := hflags as hi
        have hmap : as.map InfoVxlan.received = as := by
          refine map_eq_self_iff.2 fun a ha => InfoVxlan.received_eq_iff.2 ⟨?_, ?_, ?_⟩
          · exact fun h => hgbp (h ▸ ha)
          · exact fun h => hgpe (h ▸ ha)
          · exact fun h => hcsum (h ▸ ha)
        exact congrArg (fun as => LinkInfo.data (.vxlan as)) hmap
      | _ => rfl
    | _ => rfl

end VecLinkInfo

end

section Flags

attribute [local instance] Reference.little

/-- A VXLAN with a flag that is set, one that is cleared, and an
identifier. -/
def VecLinkInfo.vxlan (gbp : Bool) : List LinkInfo :=
  [.infoKind .vxlan, .data (.vxlan [.gbp gbp, .id 7])]

theorem VecLinkInfo.consistent_vxlan (gbp : Bool) : LinkInfo.Consistent (vxlan gbp) where
  threaded := by
    refine ⟨rfl, ⟨?_, .vxlan, rfl, rfl⟩, trivial⟩
    simp [InfoData.Canonical, InfoVxlan.Canonical]
  peer := by simp [vxlan]

theorem VecLinkInfo.sized_vxlan (gbp : Bool) : ∀ i ∈ vxlan gbp, i.valueLen ≤ 65531 := by
  cases gbp <;> decide

theorem VecLinkInfo.comesBack_vxlan_set :
    ∃ out, (emitNlas ((VecLinkInfo.vxlan true).map LinkInfo.nla)).run
      (zeros (nlasLen ((VecLinkInfo.vxlan true).map LinkInfo.nla))) = .ok out ∧
        parse out = .ok (VecLinkInfo.vxlan true) :=
  (comesBack_iff (consistent_vxlan true) (sized_vxlan true)).2 (by simp [vxlan])

/-- A cleared flag comes back as set. -/
theorem VecLinkInfo.vxlan_flag_lost :
    LinkInfo.Consistent (vxlan false) ∧ (∀ i ∈ vxlan false, i.valueLen ≤ 65531) ∧
      ¬ ∃ out, (emitNlas ((VecLinkInfo.vxlan false).map LinkInfo.nla)).run
        (zeros (nlasLen ((VecLinkInfo.vxlan false).map LinkInfo.nla))) = .ok out ∧
          parse out = .ok (VecLinkInfo.vxlan false) := by
  refine ⟨consistent_vxlan false, sized_vxlan false, ?_⟩
  rintro ⟨out, hout, hp⟩
  obtain ⟨out', hout', hp'⟩ := exists_parse (consistent_vxlan false) (sized_vxlan false)
  have heq : Outcome.ok out = .ok out' := hout.symm.trans hout'
  cases heq
  rw [hp] at hp'
  simp [vxlan, LinkInfo.received, InfoData.received, InfoVxlan.received] at hp'

end Flags

end NetlinkRoute
