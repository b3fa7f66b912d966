import NetlinkRoute.Message.Peers
/-!
# Links that say something of their own port — sent on and on

What a link says of its own port is written one level deeper than it is
read, and so is nested once more at every hop. That is all that is changed
of a message that was decoded: over any number of hops it arrives with each
list of an own port, its own and those of its peers at any depth, inside so
many attributes, each a header longer (`LinkMessage.hops_arrived`).
-/

namespace NetlinkRoute

open PacketUtils Emitter

section

variable [PacketUtils]

/-! ## Values -/

/-- The attributes of a port, one after another. -/
def LinkVfPort.bytes (v : LinkVfPort) : Bytes :=
  encodeNlas (v.ports.map fun p => (p.other.kind, p.other.value))

/-- What is read of a port that was written inside another. -/
def LinkVfPort.nested (v : LinkVfPort) : LinkVfPort := ⟨[⟨⟨IFLA_VF_PORT, v.bytes⟩⟩]⟩

mutual

/-- What arrives of an attribute, and of those in the peers inside it. -/
def LinkAttribute.arrived : LinkAttribute → LinkAttribute
  | .portSelf v => .portSelf v.nested
  | .linkInfo l => .linkInfo (LinkInfo.arrivedAll l)
  | a => a

def LinkInfo.arrived : LinkInfo → LinkInfo
  | .data d => .data d.arrived
  | i => i

def InfoData.arrived : InfoData → InfoData
  | .veth v => .veth v.arrived
  | d => d

def InfoVeth.arrived : InfoVeth → InfoVeth
  | .peer m => .peer (LinkMessage.arrived m)
  | v => v

/-- What arrives of a message. -/
def LinkMessage.arrived : Message LinkHeader LinkAttribute → Message LinkHeader LinkAttribute
  | ⟨header, attributes⟩ => ⟨header, LinkAttribute.arrivedAll attributes⟩

/-- What arrives of these attributes. -/
def LinkAttribute.arrivedAll : List LinkAttribute → List LinkAttribute
  | [] => []
  | a :: as => a.arrived :: LinkAttribute.arrivedAll as

/-- What arrives of these entries. -/
def LinkInfo.arrivedAll : List LinkInfo → List LinkInfo
  | [] => []
  | i :: l => i.arrived :: LinkInfo.arrivedAll l

end

/-- The recursion over the attributes of a peer is the ordinary map. -/
theorem LinkAttribute.arrivedAll_eq (as : List LinkAttribute) :
    LinkAttribute.arrivedAll as = as.map LinkAttribute.arrived := by
  induction as with
  | nil => rfl
  | cons a as ih => rw [LinkAttribute.arrivedAll, ih, List.map_cons]

/-- So is the one over link info. -/
theorem LinkInfo.arrivedAll_eq (l : List LinkInfo) :
    LinkInfo.arrivedAll l = l.map LinkInfo.arrived := by
  induction l with
  | nil => rfl
  | cons i l ih => rw [LinkInfo.arrivedAll, ih, List.map_cons]

theorem LinkAttribute.arrived_linkInfo (l : List LinkInfo) :
    (LinkAttribute.linkInfo l).arrived = .linkInfo (l.map LinkInfo.arrived) := by
  rw [LinkAttribute.arrived, LinkInfo.arrivedAll_eq]

/-- A message arrives attribute by attribute, its header unchanged. -/
theorem LinkMessage.arrived_eq (m : LinkMessage) :
    LinkMessage.arrived m = ⟨m.header, m.attributes.map LinkAttribute.arrived⟩ := by
  obtain ⟨header, attributes⟩ := m
  rw [LinkMessage.arrived, LinkAttribute.arrivedAll_eq]

/-- A peer arrives as a message of its own. -/
theorem LinkInfo.arrived_peer (q : LinkMessage) : (LinkInfo.data (.veth (.peer q))).arrived =
    .data (.veth (.peer (LinkMessage.arrived q))) := by
  rw [LinkInfo.arrived, InfoData.arrived, InfoVeth.arrived]

/-- An entry without a peer arrives as it is. -/
theorem LinkInfo.arrived_of_ne {i : LinkInfo} (h : ∀ q, i ≠ .data (.veth (.peer q))) :
    i.arrived = i := by
  cases i with
  | data d =>
    cases d with
    | veth v =>
      cases v with
      | peer q => exact absurd rfl (h q)
      | other n => simp only [LinkInfo.arrived, InfoData.arrived, InfoVeth.arrived]
    | _ => simp only [LinkInfo.arrived, InfoData.arrived]
  | _ => simp only [LinkInfo.arrived]

mutual

/-- How many lists of an own port are in an attribute, and in the peers
inside it. -/
def LinkAttribute.ownPorts : LinkAttribute → ℕ
  | .portSelf _ => 1
  | .linkInfo l => LinkInfo.ownPortsSum l
  | _ => 0

def LinkInfo.ownPorts : LinkInfo → ℕ
  | .data d => d.ownPorts
  | _ => 0

def InfoData.ownPorts : InfoData → ℕ
  | .veth v => v.ownPorts
  | _ => 0

def InfoVeth.ownPorts : InfoVeth → ℕ
  | .peer m => LinkMessage.ownPorts m
  | _ => 0

/-- How many are in a message. -/
def LinkMessage.ownPorts : Message LinkHeader LinkAttribute → ℕ
  | ⟨_, attributes⟩ => LinkAttribute.ownPortsSum attributes

/-- How many are in these attributes. -/
def LinkAttribute.ownPortsSum : List LinkAttribute → ℕ
  | [] => 0
  | a :: as => a.ownPorts + LinkAttribute.ownPortsSum as

/-- How many are in these entries. -/
def LinkInfo.ownPortsSum : List LinkInfo → ℕ
  | [] => 0
  | i :: l => i.ownPorts + LinkInfo.ownPortsSum l

end

section Counts

omit [PacketUtils]

/-- The counts of the attributes add up. -/
theorem LinkAttribute.ownPortsSum_eq (as : List LinkAttribute) :
    LinkAttribute.ownPortsSum as = (as.map LinkAttribute.ownPorts).sum := by
  induction as with
  | nil => rfl
  | cons a as ih => rw [LinkAttribute.ownPortsSum, ih, List.map_cons, List.sum_cons]

theorem LinkInfo.ownPortsSum_eq (l : List LinkInfo) :
    LinkInfo.ownPortsSum l = (l.map LinkInfo.ownPorts).sum := by
  induction l with
  | nil => rfl
  | cons i l ih => rw [LinkInfo.ownPortsSum, ih, List.map_cons, List.sum_cons]

theorem LinkAttribute.ownPorts_linkInfo (l : List LinkInfo) :
    (LinkAttribute.linkInfo l).ownPorts = (l.map LinkInfo.ownPorts).sum := by
  rw [LinkAttribute.ownPorts, LinkInfo.ownPortsSum_eq]

/-- A message counts what its attributes count. -/
theorem LinkMessage.ownPorts_eq (m : LinkMessage) :
    LinkMessage.ownPorts m = (m.attributes.map LinkAttribute.ownPorts).sum := by
  obtain ⟨header, attributes⟩ := m
  rw [LinkMessage.ownPorts, LinkAttribute.ownPortsSum_eq]

theorem LinkInfo.ownPorts_peer (q : LinkMessage) :
    (LinkInfo.data (.veth (.peer q))).ownPorts = LinkMessage.ownPorts q := by
  rw [LinkInfo.ownPorts, InfoData.ownPorts, InfoVeth.ownPorts]

/-- Only a peer counts inside link info. -/
theorem LinkInfo.ownPorts_of_ne {i : LinkInfo} (h : ∀ q, i ≠ .data (.veth (.peer q))) :
    i.ownPorts = 0 := by
  cases i with
  | data d =>
    cases d with
    | veth v =>
      cases v with
      | peer q => exact absurd rfl (h q)
      | other n => simp [LinkInfo.ownPorts, InfoData.ownPorts, InfoVeth.ownPorts]
    | _ => simp [LinkInfo.ownPorts, InfoData.ownPorts]
  | _ => simp [LinkInfo.ownPorts]

end Counts

/-- What is true of a message when it is of its attributes, of an attribute
when it is of the entries in it, and of an entry when it is of the peer in
it, is true of all: a peer is shorter than what it is in. -/
theorem LinkMessage.induction {P : LinkMessage → Prop} {Q : LinkAttribute → Prop}
    {R : LinkInfo → Prop} (message : ∀ m : LinkMessage, (∀ a ∈ m.attributes, Q a) → P m)
    (linkInfo : ∀ l, (∀ i ∈ l, R i) → Q (.linkInfo l))
    (plain : ∀ a, (∀ l, a ≠ .linkInfo l) → Q a)
    (peer : ∀ q, P q → R (.data (.veth (.peer q))))
    (entry : ∀ i, (∀ q, i ≠ .data (.veth (.peer q))) → R i) :
    (∀ m, P m) ∧ ∀ a, Q a := by
  have hentry : ∀ i, (∀ q, i = .data (.veth (.peer q)) → P q) → R i := by
    intro i hi
    by_cases h : ∃ q, i = .data (.veth (.peer q))
    · obtain ⟨q, rfl⟩ := h
      exact peer q (hi q rfl)
    · exact entry i (not_exists.1 h)
  have hattribute : ∀ a, (∀ l q, a = .linkInfo l → .data (.veth (.peer q)) ∈ l → P q) → Q a := by
    intro a ha
    by_cases h : ∃ l, a = .linkInfo l
    · obtain ⟨l, rfl⟩ := h
      exact linkInfo l fun i hi => hentry i fun q hq => ha l q rfl (hq ▸ hi)
    · exact plain a (not_exists.1 h)
  have hmessage : ∀ m, P m := by
    intro m
    induction hn : bufferLen m using Nat.strongRecOn generalizing m with
    | _ n ih =>
      subst hn
      refine message m fun a ha => hattribute a ?_
      rintro l q rfl hq
      have hlt := nlasLen_linkInfo_lt ha
      have hlt' := bufferLen_peer_lt hq
      exact ih _ (by omega) q rfl
  exact ⟨hmessage, fun a => hattribute a fun _ q _ _ => hmessage q⟩

/-! ## How much longer -/

/-- A port that fits a length field is written as its attributes. -/
theorem LinkVfPort.payload_bytes {v : LinkVfPort} (hs : v.nla.bufferLen ≤ 65531) :
    v.nla.Payload v.bytes := by
  have hal := le_nlaAlign v.nla.valueLen
  unfold Nla.bufferLen at hs
  have hsum : nlasLen (v.ports.map UnnamedNla.nla) ≤ 65531 := by
    show v.nla.valueLen ≤ 65531
    omega
  exact fills_emitNlas (t := UnnamedNla.nla) (v := fun p => p.other.value)
    (fun _ _ => writes_bytes.fills) fun _ hp => valueLen_le_of_mem hsum hp

/-- It is as long as these. -/
theorem LinkVfPort.length_bytes (v : LinkVfPort) : v.bytes.length = v.nla.valueLen :=
  length_encodeNlas_map (t := UnnamedNla.nla) (v := fun p => p.other.value) fun _ _ => rfl

/-- What is read of it is a header longer. -/
theorem LinkVfPort.valueLen_nested (v : LinkVfPort) :
    v.nested.nla.valueLen = nlaAlign v.nla.valueLen + 4 := by
  show nlasLen [UnnamedNla.nla ⟨⟨IFLA_VF_PORT, v.bytes⟩⟩] = _
  rw [nlasLen_cons, ← v.length_bytes]
  rfl

/-- **A message grows by a header for each own port in it**, its own and
those of its peers. -/
theorem LinkMessage.bufferLen_arrived_and : (∀ m : LinkMessage,
    bufferLen (arrived m) = bufferLen m + 4 * ownPorts m) ∧
      ∀ a : LinkAttribute, a.arrived.valueLen = a.valueLen + 4 * a.ownPorts := by
  refine induction (R := fun i => i.arrived.valueLen = i.valueLen + 4 * i.ownPorts)
    (fun m hm => ?_) (fun l hl => ?_) (fun a ha => ?_) (fun q hq => ?_) fun i hi => ?_
  · have hlen : ∀ m, bufferLen m = LinkHeader.codec.len +
        nlasLen (m.attributes.map LinkAttribute.nla) := bufferLen_eq
    have hgrown : nlasLen (m.attributes.map (LinkAttribute.nla ∘ LinkAttribute.arrived)) =
        nlasLen (m.attributes.map LinkAttribute.nla) +
          4 * (m.attributes.map LinkAttribute.ownPorts).sum := nlasLen_grown hm
    rw [hlen, hlen, arrived_eq, ownPorts_eq, List.map_map, hgrown]
    omega
  · have hlen : ∀ l, (LinkAttribute.linkInfo l).valueLen = nlasLen (l.map LinkInfo.nla) :=
      LinkInfo.bufferLenSum_eq
    rw [LinkAttribute.arrived_linkInfo, LinkAttribute.ownPorts_linkInfo, hlen, hlen, List.map_map]
    exact nlasLen_grown hl
  · cases a with
    | portSelf v =>
      show v.nested.nla.bufferLen = v.nla.bufferLen + 4 * 1
      rw [Nla.bufferLen, Nla.bufferLen, v.valueLen_nested]
      unfold nlaAlign
      omega
    | linkInfo l => exact absurd rfl (ha l)
    | _ => simp only [LinkAttribute.arrived, LinkAttribute.ownPorts, Nat.mul_zero, Nat.add_zero]
  · have hlen : ∀ q, (LinkInfo.data (.veth (.peer q))).valueLen =
        nlaAlign (LinkMessage.bufferLen q) + 4 := fun _ => rfl
    rw [LinkInfo.arrived_peer, LinkInfo.ownPorts_peer, hlen, hlen, hq]
    unfold nlaAlign
    omega
  · rw [LinkInfo.arrived_of_ne hi, LinkInfo.ownPorts_of_ne hi]
    rfl

/-- An attribute arrives longer by four bytes for each port list of its own
in it. -/
theorem LinkAttribute.valueLen_arrived (a : LinkAttribute) :
    a.arrived.valueLen = a.valueLen + 4 * a.ownPorts :=
  LinkMessage.bufferLen_arrived_and.2 a

/-- Each own port is still one. -/
theorem LinkMessage.ownPorts_arrived_and :
    (∀ m : LinkMessage, ownPorts (arrived m) = ownPorts m) ∧
      ∀ a : LinkAttribute, a.arrived.ownPorts = a.ownPorts := by
  refine induction (R := fun i => i.arrived.ownPorts = i.ownPorts)
    (fun m hm => ?_) (fun l hl => ?_) (fun a ha => ?_) (fun q hq => ?_) fun i hi => ?_
  · rw [ownPorts_eq, ownPorts_eq, arrived_eq, List.map_map]
    exact congrArg List.sum (List.map_congr_left hm)
  · rw [LinkAttribute.arrived_linkInfo, LinkAttribute.ownPorts_linkInfo,
      LinkAttribute.ownPorts_linkInfo, List.map_map]
    exact congrArg List.sum (List.map_congr_left hl)
  · cases a with
    | linkInfo l => exact absurd rfl (ha l)
    | _ => simp only [LinkAttribute.arrived, LinkAttribute.ownPorts]
  · rw [LinkInfo.arrived_peer, LinkInfo.ownPorts_peer, LinkInfo.ownPorts_peer, hq]
  · rw [LinkInfo.arrived_of_ne hi]

/-- Without one, nothing is changed. -/
theorem LinkMessage.arrived_of_ownPorts_eq_zero :
    (∀ m : LinkMessage, ownPorts m = 0 → arrived m = m) ∧
      ∀ a : LinkAttribute, a.ownPorts = 0 → a.arrived = a := by
  refine induction (R := fun i => i.ownPorts = 0 → i.arrived = i)
    (fun m hm hz => ?_) (fun l hl hz => ?_) (fun a ha hz => ?_) (fun q hq hz => ?_)
      fun i hi _ => LinkInfo.arrived_of_ne hi
  · rw [ownPorts_eq, List.sum_eq_zero_iff] at hz
    have hself := map_eq_self_iff.2 fun a ha => hm a ha (hz _ (List.mem_map_of_mem ha))
    rw [arrived_eq, hself]
  · rw [LinkAttribute.ownPorts_linkInfo, List.sum_eq_zero_iff] at hz
    have hself := map_eq_self_iff.2 fun i hi => hl i hi (hz _ (List.mem_map_of_mem hi))
    rw [LinkAttribute.arrived_linkInfo, hself]
  · cases a with
    | portSelf v => cases hz
    | linkInfo l => exact absurd rfl (ha l)
    | _ => simp only [LinkAttribute.arrived]
  · rw [LinkInfo.ownPorts_peer] at hz
    rw [LinkInfo.arrived_peer, hq hz]

namespace LinkMessage

variable {m : LinkMessage} {b : Bytes}

/-- What the other side gets of a message. -/
def hop (m : LinkMessage) : Outcome LinkMessage := passOn emit bufferLen decode m

/-- A message arrives as it is exactly where it counts none. -/
theorem arrived_eq_iff : arrived m = m ↔ ownPorts m = 0 := by
  constructor
  · intro heq
    have hlen := bufferLen_arrived_and.1 m
    rw [heq] at hlen
    omega
  · exact arrived_of_ownPorts_eq_zero.1 m

/-- It counts none where neither it nor a peer in it lists its own ports. -/
theorem ownPorts_eq_zero_iff : ownPorts m = 0 ↔ ¬ HasPortSelf m := by
  refine (induction (P := fun m => ownPorts m = 0 ↔ ¬ HasPortSelf m)
    (Q := fun a => a.ownPorts = 0 ↔ (∀ v, a ≠ .portSelf v) ∧
      ∀ l q, a = .linkInfo l → .data (.veth (.peer q)) ∈ l → ¬ HasPortSelf q)
    (R := fun i => i.ownPorts = 0 ↔ ∀ q, i = .data (.veth (.peer q)) → ¬ HasPortSelf q)
    (fun m hm => ?_) (fun l hl => ?_) (fun a ha => ?_) (fun q hq => ?_) fun i hi => ?_).1 m
  · rw [ownPorts_eq, List.sum_eq_zero_iff, List.forall_mem_map]
    constructor
    · intro hz hp
      cases hp with
      | here h => exact ((hm _ h).1 (hz _ h)).1 _ rfl
      | peer h hp hq => exact ((hm _ h).1 (hz _ h)).2 _ _ rfl hp hq
    · intro hp a ha
      refine (hm a ha).2 ⟨fun v hv => hp (.here (hv ▸ ha)), fun l q hl hq hport => ?_⟩
      exact hp (.peer (hl ▸ ha) hq hport)
  · rw [LinkAttribute.ownPorts_linkInfo, List.sum_eq_zero_iff, List.forall_mem_map]
    constructor
    · intro hz
      refine ⟨by simp, fun l' q hl' hq => ?_⟩
      cases hl'
      exact (hl _ hq).1 (hz _ hq) q rfl
    · exact fun hn i hi => (hl i hi).2 fun q hq => hn.2 l q rfl (hq ▸ hi)
  · cases a with
    | portSelf v => simp [LinkAttribute.ownPorts]
    | linkInfo l => exact absurd rfl (ha l)
    | _ => simp [LinkAttribute.ownPorts]
  · rw [LinkInfo.ownPorts_peer, hq]
    simp
  · rw [LinkInfo.ownPorts_of_ne hi]
    exact iff_of_true rfl fun q hq => absurd hq (hi q)

end LinkMessage

/-! ## One hop -/

/-- An entry arrives when the peer in it does. -/
theorem LinkInfo.roundTrips_arrived {mem : Memory} {i : LinkInfo} (h : Fits mem i)
    (hrec : i.received = i) (hs : i.valueLen ≤ 65531)
    (hpeer : ∀ q, i = .data (.veth (.peer q)) → LinkMessage.hop q = .ok (LinkMessage.arrived q)) :
    RoundTrips (step LinkMessage.decode mem) i.nla (after mem i, i.arrived) := by
  by_cases hi : ∃ q, i = .data (.veth (.peer q))
  · obtain ⟨q, rfl⟩ := hi
    obtain ⟨w, hw, hdec⟩ := passOn_eq_ok_iff.1 (hpeer q rfl)
    obtain ⟨-, kind, hkind, rfl⟩ := h
    have hle : (InfoVeth.nla (.peer q)).valueLen ≤ 65531 := by
      have hle : nlaAlign (LinkMessage.bufferLen q) + 4 ≤ 65531 := hs
      have hal := le_nlaAlign (LinkMessage.bufferLen q)
      show LinkMessage.bufferLen q ≤ 65531
      omega
    have hveth : RoundTrips (InfoVeth.parse LinkMessage.decode) (InfoVeth.nla (.peer q))
        (.peer (LinkMessage.arrived q)) := .of_arm hw VETH_INFO_PEER rfl rfl (by simp [hdec])
    obtain ⟨out, hout, hv, hp⟩ := hveth.exists_emitNla hle
    have hdata : InfoData.parseWithParam LinkMessage.decode out .veth =
        .ok (.veth (.peer (LinkMessage.arrived q))) := by
      simp [InfoData.parseWithParam, newChecked_of_valid hv, hp]
    refine ⟨out, hout, fun nb hc => ?_⟩
    have hk : (LinkInfo.data (.veth (.peer q))).nla.kind &&& NLA_TYPE_MASK = IFLA_INFO_DATA :=
      mask_of_mem IFLA_INFO_DATA (by decide)
    rw [step, hc.kind, hk, Outcome.ok_bind, hc.value]
    exact (select_of_find rfl).trans (by simp [hkind, hdata, after, arrived_peer])
  · have hrt := roundTrips h hs fun q hq => absurd ⟨q, hq⟩ hi
    rw [hrec] at hrt
    rwa [arrived_of_ne (not_exists.1 hi)]

/-- So does a list that was read, when the peers in it do. -/
theorem VecLinkInfo.exists_parse_arrived {payload : Bytes} {l : List LinkInfo}
    (h : ReadFrom payload l) (hs : ∀ i ∈ l, i.valueLen ≤ 65531)
    (hpeer : ∀ q, .data (.veth (.peer q)) ∈ l →
      LinkMessage.hop q = .ok (LinkMessage.arrived q)) :
    ∃ out, Fills (emitNlas (l.map LinkInfo.nla)) (nlasLen (l.map LinkInfo.nla)) out ∧
      parse out = .ok (l.map LinkInfo.arrived) := by
  have hstep : ∀ mem, ∀ i ∈ l, LinkInfo.Fits mem i →
      RoundTrips (LinkInfo.step LinkMessage.decode mem) i.nla
        (LinkInfo.after mem i, i.arrived) := by
    intro mem i hi hfits
    exact LinkInfo.roundTrips_arrived hfits (map_eq_self_iff.1 h.received_eq i hi) (hs i hi)
      fun q hq => hpeer q (hq ▸ hi)
  exact exists_forEachFrom_emitted hstep h.threaded hs

namespace LinkAttribute

variable {parseInfos : Bytes → Outcome (List LinkInfo)} {family : AddressFamily}
  {a : LinkAttribute}

/-- An attribute arrives when the list in it does, and is not an empty list
of programs. -/
theorem roundTrips_arrived (h : a.Canonical family) (hs : a.valueLen ≤ 65531)
    (hxdp : a ≠ .xdp []) (hinfo : ∀ l, a = .linkInfo l → ∃ out,
      Fills (emitNlas (l.map LinkInfo.nla)) (nlasLen (l.map LinkInfo.nla)) out ∧
        parseInfos out = .ok (l.map LinkInfo.arrived)) :
    RoundTrips (parseOver parseInfos family) a.nla a.arrived := by
  cases a with
  | portSelf v => exact roundTrips_portSelf hs (LinkVfPort.payload_bytes hs)
  | linkInfo l =>
    obtain ⟨out, hout, hp⟩ := hinfo l rfl
    have hpay : (nla (.linkInfo l)).Payload out := by
      show Fills (emitValue (.linkInfo l)) (valueLen (.linkInfo l)) out
      rwa [emitValue, valueLen, LinkInfo.nlas_eq, LinkInfo.bufferLenSum_eq]
    refine ⟨out, hpay, fun nb hc => (hc.bind _).trans ?_⟩
    have hk : (nla (.linkInfo l)).kind &&& NLA_TYPE_MASK = IFLA_LINKINFO :=
      show IFLA_LINKINFO &&& NLA_TYPE_MASK = IFLA_LINKINFO by decide
    rw [hk]
    exact (select_of_find rfl).trans (by simp [hp, arrived_linkInfo])
  | _ =>
    simp only [arrived]
    exact roundTrips h hs (by simp) hxdp (by simp)

end LinkAttribute

namespace LinkMessage

variable {m : LinkMessage} {b : Bytes}

/-- **One hop**: of what was decoded, each own port is nested once more. -/
theorem hop_eq_arrived (h : decode b = .ok m) (hs : format.Sized m) : hop m = .ok (arrived m) := by
  -- by induction on the number of bytes: peers were decoded from fewer
  induction hn : b.length using Nat.strongRecOn generalizing b m with
  | _ n ih =>
    subst hn
    obtain ⟨-, -, hheader, hattrs⟩ := format.decode_eq_ok (decode_eq ▸ h)
    have hrt : ∀ a ∈ m.attributes, RoundTrips
        (LinkAttribute.parseWithParam m.header.interfaceFamily) a.nla a.arrived := by
      intro a ha
      obtain ⟨nb, hnb, hp⟩ := exists_of_mem_parseEach hattrs ha
      have hread := LinkAttribute.holds_parse (valid_of_mem_nlas hnb) a hp
      refine LinkAttribute.roundTrips_arrived hread.canonical (hs a ha) hread.xdp_ne ?_
      rintro l rfl
      have hlist := VecLinkInfo.holds_parse l (hread.linkInfo l rfl).2
      have hsl := sized_linkInfo hs ha
      refine VecLinkInfo.exists_parse_arrived hlist hsl fun q hq => ?_
      obtain ⟨c, hc, hd⟩ := hlist.peer q hq
      have hlt := length_value_lt_of_mem_nlas hnb
      rw [List.length_drop] at hlt
      exact ih _ (by omega) hd (sized_peer hsl hq) rfl
    obtain ⟨out, hout, hdec⟩ := format.decode_emitted_as hheader
      (parseEach_emitted_as LinkAttribute.local_parseWithParam hrt hs)
    refine passOn_eq_ok_iff.2 ⟨out, ?_, ?_⟩
    · rwa [emit_eq, bufferLen_eq]
    · rwa [decode_eq, arrived_eq]

/-! ## Hop by hop -/

/-- Every arrival was decoded from bytes, as long as each hop fits. -/
theorem decoded_iterate (n : ℕ) (h : decode b = .ok m)
    (hs : ∀ k < n, format.Sized (arrived^[k] m)) : ∃ c, decode c = .ok (arrived^[n] m) := by
  induction n with
  | zero => exact ⟨b, h⟩
  | succ n ih =>
    obtain ⟨c, hc⟩ := ih fun k hk => hs k (Nat.lt_succ_of_lt hk)
    obtain ⟨out, -, hdec⟩ := passOn_eq_ok_iff.1 (hop_eq_arrived hc (hs n (Nat.lt_succ_self n)))
    rw [Function.iterate_succ_apply']
    exact ⟨out, hdec⟩

/-- Every hop adds the same number of bytes. -/
theorem bufferLen_iterate (n : ℕ) :
    bufferLen (arrived^[n] m) = bufferLen m + 4 * n * ownPorts m := by
  have hports : ∀ n, ownPorts (arrived^[n] m) = ownPorts m := fun n => by
    induction n with
    | zero => rfl
    | succ n ih => rw [Function.iterate_succ_apply', ownPorts_arrived_and.1, ih]
  induction n with
  | zero => simp
  | succ n ih =>
    rw [Function.iterate_succ_apply', bufferLen_arrived_and.1, ih, hports, Nat.mul_succ,
      Nat.add_mul, Nat.add_assoc]

/-- There is room in every attribute for a header of each own port in it at
each of so many hops. -/
def Room (n : ℕ) (m : LinkMessage) : Prop :=
  ∀ a ∈ m.attributes, a.valueLen + 4 * n * a.ownPorts ≤ 65531

/-- One hop takes one hop of the room. -/
theorem Room.arrived {n : ℕ} (h : Room (n + 1) m) : Room n (arrived m) := by
  rw [Room, arrived_eq]
  refine List.forall_mem_map.2 fun a ha => ?_
  have hle := h a ha
  rw [Nat.mul_succ, Nat.add_mul] at hle
  rw [a.valueLen_arrived, ownPorts_arrived_and.2]
  omega

/-- A message with room fits its length words. -/
theorem Room.sized {n : ℕ} (h : Room n m) : format.Sized m := by
  intro a ha
  have hle := h a ha
  show a.valueLen ≤ 65531
  omega

/-- So does the arrival the room is for. -/
theorem sized_iterate {n : ℕ} (h : Room n m) : format.Sized (LinkMessage.arrived^[n] m) := by
  induction n generalizing m with
  | zero => exact h.sized
  | succ n ih =>
    rw [Function.iterate_succ_apply]
    exact ih h.arrived

theorem Room.mono {k n : ℕ} (h : Room n m) (hk : k ≤ n) : Room k m := by
  intro a ha
  have hle := h a ha
  have hmul := Nat.mul_le_mul_right a.ownPorts (Nat.mul_le_mul_left 4 hk)
  omega

/-- **Hop by hop**: over `n` hops a decoded message arrives with each own
port in it, its own and those of its peers at any depth, nested `n` times,
and so longer by `n` headers for each of them; it arrives as it was exactly
when there is none. -/
theorem hops_arrived (n : ℕ) (h : decode b = .ok m) (hs : Room n m) :
    hops hop n m = .ok (arrived^[n] m) ∧
      bufferLen (arrived^[n] m) = bufferLen m + 4 * n * ownPorts m ∧
      (0 < n → (arrived^[n] m = m ↔ ¬ HasPortSelf m)) := by
  have hsized : ∀ k ≤ n, format.Sized (arrived^[k] m) := fun k hk => sized_iterate (hs.mono hk)
  refine ⟨?_, bufferLen_iterate n, fun hn => ?_⟩
  · refine hops_of_step (P := fun m => (∃ c, decode c = .ok m) ∧ format.Sized m)
      (fun m hm => ?_) fun k hk => ⟨?_, hsized k hk.le⟩
    · obtain ⟨c, hc⟩ := hm.1
      exact hop_eq_arrived hc hm.2
    · exact decoded_iterate k h fun j hj => hsized j (hj.trans hk).le
  · rw [← ownPorts_eq_zero_iff]
    constructor
    · intro heq
      have hlen := bufferLen_iterate (m := m) n
      rw [heq] at hlen
      have hz : 4 * n * ownPorts m = 0 := by omega
      exact (Nat.mul_eq_zero.1 hz).resolve_left (by omega)
    · exact fun hz => Function.iterate_fixed (arrived_eq_iff.2 hz) n

end LinkMessage

end

/-! ## On a little-endian host -/

section Pairs

attribute [local instance] Reference.little

namespace LinkMessage

/-- A virtual pair that says at its other end that nothing is known of the
port there: after a hundred hops it is four hundred bytes longer. -/
theorem pairWith_hops : (∃ b, decode b = .ok (pairWith [.portSelf ⟨[]⟩])) ∧
    ∃ m, hops hop 100 (pairWith [.portSelf ⟨[]⟩]) = .ok m ∧
      bufferLen m = bufferLen (pairWith [.portSelf ⟨[]⟩]) + 400 ∧
      m ≠ pairWith [.portSelf ⟨[]⟩] := by
  have hdec : decode (zeros 16 ++ [44, 0, 18, 0, 9, 0, 1, 0, 118, 101, 116, 104, 0, 0, 0, 0] ++
      [28, 0, 2, 0, 24, 0, 1, 0] ++ zeros 16 ++ [4, 0, 25, 0]) =
        .ok (pairWith [.portSelf ⟨[]⟩]) := rfl
  have hone : ownPorts (pairWith [.portSelf ⟨[]⟩]) = 1 := rfl
  have hs : Room 100 (pairWith [.portSelf ⟨[]⟩]) := List.forall_mem_singleton.2 (by decide)
  obtain ⟨hhops, hlen, -⟩ := hops_arrived 100 hdec hs
  rw [hone] at hlen
  refine ⟨⟨_, hdec⟩, _, hhops, hlen, fun heq => ?_⟩
  rw [heq] at hlen
  omega

end LinkMessage

end Pairs

end NetlinkRoute
