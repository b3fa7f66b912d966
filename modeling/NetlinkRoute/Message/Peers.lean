import NetlinkRoute.Common.Written
import NetlinkRoute.Message.Transparent
/-!
# Links with all their peers — written and read back

A link message can hold the other end of a virtual pair, which is a link
message that can hold one again. A well-formed message comes back through
all of these levels, unless one of four things stands in it or in a peer
inside it: its own port, an empty list of programs, or a flag of a VXLAN
that is not set (`LinkMessage.comesBack_iff_not_altered`). Of these, only
its own port can be in what was decoded (`LinkMessage.altered_iff_of_decode`).
-/

namespace NetlinkRoute

open PacketUtils Emitter

section

variable [PacketUtils]

/-! ## Sizes -/

namespace LinkMessage

variable {m q : LinkMessage} {l : List LinkInfo}

/-- What is in a message that fits fits. -/
theorem sized_linkInfo (hs : format.Sized m) (h : .linkInfo l ∈ m.attributes) :
    ∀ i ∈ l, i.valueLen ≤ 65531 := by
  intro i hi
  have hle := valueLen_add_le_of_mem (t := LinkInfo.nla) hi
  have hsum : (LinkAttribute.nla (.linkInfo l)).valueLen ≤ 65531 := hs _ h
  have hval : (LinkAttribute.nla (.linkInfo l)).valueLen = nlasLen (l.map LinkInfo.nla) :=
    LinkInfo.bufferLenSum_eq l
  have hi : (LinkInfo.nla i).valueLen = i.valueLen := rfl
  omega

/-- And so does a peer. -/
theorem sized_peer (hs : ∀ i ∈ l, i.valueLen ≤ 65531) (h : .data (.veth (.peer q)) ∈ l) :
    format.Sized q := by
  have hle : nlaAlign (bufferLen q) + 4 ≤ 65531 := hs _ h
  have hal := le_nlaAlign (bufferLen q)
  exact sized_of_bufferLen_le (by omega)

end LinkMessage

/-! ## The list of `IFLA_LINKINFO` -/

namespace InfoVxlan

/-- A flag that is not set. -/
def Cleared (as : List InfoVxlan) : Prop :=
  .gbp false ∈ as ∨ .gpe false ∈ as ∨ .remCsumNoPartial false ∈ as

omit [PacketUtils] in
/-- A list is received as it is exactly where no flag in it is cleared. -/
theorem map_received_eq_iff {as : List InfoVxlan} : as.map received = as ↔ ¬ Cleared as := by
  rw [map_eq_self_iff]
  simp only [received_eq_iff, Cleared, not_or]
  constructor
  · exact fun h => ⟨fun hm => (h _ hm).1 rfl, fun hm => (h _ hm).2.1 rfl,
      fun hm => (h _ hm).2.2 rfl⟩
  · rintro ⟨hgbp, hgpe, hcsum⟩ a ha
    exact ⟨fun h => hgbp (h ▸ ha), fun h => hgpe (h ▸ ha), fun h => hcsum (h ▸ ha)⟩

end InfoVxlan

namespace LinkInfo

variable {mem mem' : Memory} {i : LinkInfo} {l : List LinkInfo} {q : LinkMessage}

omit [PacketUtils] in
/-- So is link info, by the VXLAN data in it. -/
theorem map_received_eq_iff : l.map received = l ↔
    ∀ as, .data (.vxlan as) ∈ l → ¬ InfoVxlan.Cleared as := by
  rw [map_eq_self_iff]
  constructor
  · intro h as has
    have hdata : received (.data (.vxlan as)) = .data (.vxlan as) := h _ has
    exact InfoVxlan.map_received_eq_iff.1 (by simpa [received, InfoData.received] using hdata)
  · intro h i hi
    cases i with
    | data d =>
      cases d with
      | vxlan as =>
        have hmap := InfoVxlan.map_received_eq_iff.2 (h as hi)
        exact congrArg (fun as => LinkInfo.data (.vxlan as)) hmap
      | _ => rfl
    | _ => rfl

/-- A peer that comes back in its list comes back. -/
theorem comesBack_of_roundTrips (hs : LinkMessage.bufferLen q ≤ 65531)
    (h : RoundTrips (step LinkMessage.decode mem) (nla (.data (.veth (.peer q))))
      (mem', .data (.veth (.peer q)))) (hlen : (nla (.data (.veth (.peer q)))).valueLen ≤ 65531) :
    LinkMessage.ComesBack q := by
  obtain ⟨v, hv, hp⟩ := h
  -- the payload is one attribute, and the payload of that is the peer
  obtain ⟨⟨word, w⟩, ⟨rfl, hw⟩, rfl⟩ := (fills_emitNla_iff
    (n := InfoVeth.nla (.peer q)) hs).1 hv
  have hfills : Fills (LinkMessage.emit q) (LinkMessage.bufferLen q) w := hw
  have hle : w.length ≤ 65531 := by
    rw [hfills.length_eq]
    exact hs
  have hinner : Carries ⟨encodeNla (InfoVeth.nla (.peer q)).kind w⟩
      (InfoVeth.nla (.peer q)).kind w :=
    carries_nlaOf (a := ((InfoVeth.nla (.peer q)).kind, w)) hle
  have houter := carries_nlaOf (a := ((nla (.data (.veth (.peer q)))).kind,
    encodeNla (InfoVeth.nla (.peer q)).kind w)) (by rw [Nla.Payload.length_eq hv]; exact hlen)
  have hstep := hp _ houter
  have hk : (nla (.data (.veth (.peer q)))).kind &&& NLA_TYPE_MASK = IFLA_INFO_DATA :=
    mask_of_mem IFLA_INFO_DATA (by decide)
  rw [step, houter.kind, hk, Outcome.ok_bind, houter.value] at hstep
  have harm := (select_of_find (k := IFLA_INFO_DATA) rfl).symm.trans hstep
  cases hm : mem.linkInfoKind with
  | none => simp [hm] at harm
  | some kind =>
    simp only [hm, Outcome.ok_bind, Outcome.bind_eq_ok] at harm
    obtain ⟨d, hd, heq⟩ := harm
    simp only [Outcome.ok.injEq, Prod.mk.injEq, data.injEq] at heq
    obtain ⟨-, rfl⟩ := heq
    obtain rfl : kind = .veth := (InfoData.holds_parse _ hd).selected
    rw [InfoData.parseWithParam, newChecked_of_valid hinner.valid, Outcome.context_ok,
      Outcome.ok_bind, Outcome.map_eq_ok] at hd
    obtain ⟨a, ha, heq⟩ := hd
    simp only [InfoData.veth.injEq] at heq
    have hdec := (InfoVeth.holds_parse hinner.valid a ha).2 q heq
    rw [hinner.value_eq] at hdec
    exact ⟨w, hfills, hdec⟩

end LinkInfo

/-- **A list whose entries fit comes back exactly when no flag of a VXLAN in
it is cleared and each peer in it comes back.** -/
theorem VecLinkInfo.returns_iff {l : List LinkInfo}
    (h : Threaded LinkInfo.Fits LinkInfo.after {} l) (hs : ∀ i ∈ l, i.valueLen ≤ 65531) :
    (∃ out, Fills (emitNlas (l.map LinkInfo.nla)) (nlasLen (l.map LinkInfo.nla)) out ∧
      parse out = .ok l) ↔ (∀ as, .data (.vxlan as) ∈ l → ¬ InfoVxlan.Cleared as) ∧
      ∀ q, .data (.veth (.peer q)) ∈ l → LinkMessage.ComesBack q := by
  constructor
  · intro hex
    obtain ⟨out, hout, hp⟩ := hex
    refine ⟨LinkInfo.map_received_eq_iff.1 (holds_parse l hp).received_eq, fun q hq => ?_⟩
    have hreturns := (forEachFrom_emitted_iff (fun _ => LinkInfo.local_step) hs).1 ⟨out, hout, hp⟩
    obtain ⟨mem, mem', hrt⟩ := hreturns.of_mem hq
    have hle : nlaAlign (LinkMessage.bufferLen q) + 4 ≤ 65531 := hs _ hq
    have hal := le_nlaAlign (LinkMessage.bufferLen q)
    exact LinkInfo.comesBack_of_roundTrips (by omega) hrt (hs _ hq)
  · rintro ⟨hflags, hpeers⟩
    obtain ⟨out, hout, hp⟩ := exists_parse ⟨h, hpeers⟩ hs
    exact ⟨out, hout, by rw [hp, LinkInfo.map_received_eq_iff.2 hflags]⟩

/-! ## Messages -/

namespace LinkMessage

variable {b : Bytes} {m : LinkMessage}

/-- The values of the message are canonical, each entry of its lists fits
where it stands, and so it is in the peers inside. -/
inductive WellFormed : LinkMessage → Prop
  | intro {m : LinkMessage} (header : LinkHeader.codec.WellFormed m.header)
      (attributes : ∀ a ∈ m.attributes, a.Canonical m.header.interfaceFamily)
      (infos : ∀ l, .linkInfo l ∈ m.attributes → Threaded LinkInfo.Fits LinkInfo.after {} l)
      (peers : ∀ l q, .linkInfo l ∈ m.attributes → .data (.veth (.peer q)) ∈ l → WellFormed q) :
      WellFormed m

/-- **What does not come back as it was sent**, in the message or in a peer
inside it. -/
inductive Altered : LinkMessage → Prop
  /-- What the link says of its own port. -/
  | portSelf {m : LinkMessage} {v : LinkVfPort} (h : .portSelf v ∈ m.attributes) : Altered m
  /-- An empty list of programs. -/
  | noPrograms {m : LinkMessage} (h : .xdp [] ∈ m.attributes) : Altered m
  /-- A flag that is not set. -/
  | cleared {m : LinkMessage} {l : List LinkInfo} {as : List InfoVxlan}
      (h : .linkInfo l ∈ m.attributes) (hd : .data (.vxlan as) ∈ l)
      (hf : InfoVxlan.Cleared as) : Altered m
  /-- One of these in a peer. -/
  | peer {m q : LinkMessage} {l : List LinkInfo} (h : .linkInfo l ∈ m.attributes)
      (hp : .data (.veth (.peer q)) ∈ l) (hq : Altered q) : Altered m

/-- A message with a well-formed header comes back when its attributes
do. -/
theorem comesBack_iff_roundTrips (hw : LinkHeader.codec.WellFormed m.header)
    (hs : format.Sized m) : ComesBack m ↔ ∀ a ∈ m.attributes,
      RoundTrips (LinkAttribute.parseWithParam m.header.interfaceFamily) a.nla a := by
  have hlocal : ∀ header : LinkHeader,
      Local (LinkAttribute.parseWithParam header.interfaceFamily) := fun _ =>
    LinkAttribute.local_parseWithParam
  have h := format.decode_emitted_iff (m := m) rfl hlocal hw hs
  rw [← emit_eq, ← bufferLen_eq, ← funext fun b => decode_eq (b := b)] at h
  exact h

/-- The list of an attribute that comes back comes back. -/
theorem returns_of_roundTrips {family : AddressFamily} {l : List LinkInfo}
    (h : RoundTrips (LinkAttribute.parseWithParam family) (LinkAttribute.nla (.linkInfo l))
      (.linkInfo l)) (hs : (LinkAttribute.nla (.linkInfo l)).valueLen ≤ 65531) :
    ∃ out, Fills (emitNlas (l.map LinkInfo.nla)) (nlasLen (l.map LinkInfo.nla)) out ∧
      VecLinkInfo.parse out = .ok l := by
  obtain ⟨v, hv, hp⟩ := h
  have hfills : Fills (emitNlas (l.map LinkInfo.nla)) (nlasLen (l.map LinkInfo.nla)) v := by
    have hv : Fills (LinkAttribute.emitValue (.linkInfo l)) (LinkAttribute.valueLen (.linkInfo l))
      v := hv
    rwa [LinkAttribute.emitValue, LinkAttribute.valueLen, LinkInfo.nlas_eq,
      LinkInfo.bufferLenSum_eq] at hv
  have hc := carries_nlaOf (a := ((LinkAttribute.nla (.linkInfo l)).kind, v))
    (by rw [Nla.Payload.length_eq hv]; exact hs)
  have hread := LinkAttribute.holds_parse hc.valid _ (hp _ hc)
  refine ⟨v, hfills, ?_⟩
  have hparse := (hread.linkInfo l rfl).2
  rwa [hc.value_eq] at hparse

/-- **A well-formed message comes back, with all its peers, exactly when
nothing in it is altered.** -/
theorem comesBack_iff_not_altered (hw : WellFormed m) (hs : format.Sized m) :
    ComesBack m ↔ ¬ Altered m := by
  -- by induction on the length: peers are shorter
  induction hn : bufferLen m using Nat.strongRecOn generalizing m with
  | _ n ih =>
    subst hn
    obtain ⟨hheader, hattrs, hinfos, hpeers⟩ := hw
    have hpeer : ∀ l q, .linkInfo l ∈ m.attributes → .data (.veth (.peer q)) ∈ l →
        (ComesBack q ↔ ¬ Altered q) := by
      intro l q hl hq
      have hlt := nlasLen_linkInfo_lt hl
      have hlt' := bufferLen_peer_lt hq
      exact ih _ (by omega) (hpeers l q hl hq) (sized_peer (sized_linkInfo hs hl) hq) rfl
    have hlist : ∀ l, .linkInfo l ∈ m.attributes → _ :=
      fun l hl => VecLinkInfo.returns_iff (hinfos l hl) (sized_linkInfo hs hl)
    rw [comesBack_iff_roundTrips hheader hs]
    constructor
    · intro hrt ha
      cases ha with
      | portSelf h =>
        obtain ⟨out, hout, -, hp⟩ := (hrt _ h).exists_emitNla (hs _ h)
        exact LinkAttribute.parse_emitted_portSelf (hs _ h) hout hp
      | noPrograms h =>
        obtain ⟨out, hout, -, hp⟩ := (hrt _ h).exists_emitNla (hs _ h)
        exact LinkAttribute.parse_emitted_xdp_nil hout hp
      | cleared h hd hf =>
        exact ((hlist _ h).1 (returns_of_roundTrips (hrt _ h) (hs _ h))).1 _ hd hf
      | peer h hp hq =>
        have hcomes := ((hlist _ h).1 (returns_of_roundTrips (hrt _ h) (hs _ h))).2 _ hp
        exact (hpeer _ _ h hp).1 hcomes hq
    · intro hna a ha
      refine LinkAttribute.roundTrips (hattrs a ha) (hs a ha) (fun v hv => ?_) (fun hx => ?_)
        fun l hl => ?_
      · exact hna (.portSelf (hv ▸ ha))
      · exact hna (.noPrograms (hx ▸ ha))
      · subst hl
        refine (hlist l ha).2 ⟨fun as has hf => hna (.cleared ha has hf), fun q hq => ?_⟩
        exact (hpeer l q ha hq).2 fun haq => hna (.peer ha hq haq)

/-! ## What was decoded -/

/-- **What was decoded is well formed**, with all its peers. -/
theorem wellFormed_of_decode (h : decode b = .ok m) : WellFormed m := by
  -- by induction on the number of bytes: peers were decoded from fewer
  induction hn : b.length using Nat.strongRecOn generalizing b m with
  | _ n ih =>
    subst hn
    obtain ⟨-, -, hheader, hattrs⟩ := format.decode_eq_ok (decode_eq ▸ h)
    have hread : ∀ a ∈ m.attributes, ∃ nb, .ok nb ∈ nlas (b.drop format.header.len) ∧
        LinkAttribute.ReadFrom VecLinkInfo.parse m.header.interfaceFamily nb a := by
      intro a ha
      obtain ⟨nb, hnb, hp⟩ := exists_of_mem_parseEach hattrs ha
      exact ⟨nb, hnb, LinkAttribute.holds_parse (valid_of_mem_nlas hnb) a hp⟩
    refine .intro hheader (fun a ha => ?_) (fun l hl => ?_) fun l q hl hq => ?_
    · obtain ⟨nb, -, hr⟩ := hread a ha
      exact hr.canonical
    · obtain ⟨nb, -, hr⟩ := hread _ hl
      exact (VecLinkInfo.holds_parse l (hr.linkInfo l rfl).2).threaded
    · obtain ⟨nb, hnb, hr⟩ := hread _ hl
      obtain ⟨c, hc, hd⟩ := (VecLinkInfo.holds_parse l (hr.linkInfo l rfl).2).peer q hq
      have hlt := length_value_lt_of_mem_nlas hnb
      rw [List.length_drop] at hlt
      exact ih _ (by omega) hd rfl

/-- **Of what was decoded, only what links say of their own ports is
altered** when it is sent again. -/
theorem altered_iff_of_decode (h : decode b = .ok m) : Altered m ↔ HasPortSelf m := by
  induction hn : b.length using Nat.strongRecOn generalizing b m with
  | _ n ih =>
    subst hn
    obtain ⟨-, -, -, hattrs⟩ := format.decode_eq_ok (decode_eq ▸ h)
    have hinfo : ∀ l, .linkInfo l ∈ m.attributes → ∃ p : Bytes, p.length < b.length ∧
        VecLinkInfo.parse p = .ok l := by
      intro l hl
      obtain ⟨nb, hnb, hp⟩ := exists_of_mem_parseEach hattrs hl
      have hread := LinkAttribute.holds_parse (valid_of_mem_nlas hnb) _ hp
      have hlt := length_value_lt_of_mem_nlas hnb
      rw [List.length_drop] at hlt
      exact ⟨_, by omega, (hread.linkInfo l rfl).2⟩
    have hpeer : ∀ l q, .linkInfo l ∈ m.attributes → .data (.veth (.peer q)) ∈ l →
        (Altered q ↔ HasPortSelf q) := by
      intro l q hl hq
      obtain ⟨p, hp, hparse⟩ := hinfo l hl
      obtain ⟨c, hc, hd⟩ := (VecLinkInfo.holds_parse l hparse).peer q hq
      exact ih _ (by omega) hd rfl
    constructor
    · intro ha
      cases ha with
      | portSelf h => exact .here h
      | noPrograms h =>
        obtain ⟨nb, hnb, hp⟩ := exists_of_mem_parseEach hattrs h
        exact absurd rfl (LinkAttribute.holds_parse (valid_of_mem_nlas hnb) _ hp).xdp_ne
      | cleared h hd hf =>
        obtain ⟨p, -, hparse⟩ := hinfo _ h
        exact absurd hf
          (LinkInfo.map_received_eq_iff.1 (VecLinkInfo.holds_parse _ hparse).received_eq _ hd)
      | peer h hp hq => exact .peer h hp ((hpeer _ _ h hp).1 hq)
    · intro ha
      cases ha with
      | here h => exact .portSelf h
      | peer h hp hq => exact .peer h hp ((hpeer _ _ h hp).2 hq)

end LinkMessage

end

/-! ## On a little-endian host -/

section Pairs

attribute [local instance] Reference.little

namespace LinkMessage

/-- A virtual pair, with these attributes at its other end. -/
def pairWith (as : List LinkAttribute) : LinkMessage :=
  ⟨⟨.unspec, 0, .netrom, 0, 0⟩,
    [.linkInfo [.infoKind .veth, .data (.veth (.peer ⟨⟨.unspec, 0, .netrom, 0, 0⟩, as⟩))]]⟩

end LinkMessage

end Pairs

end NetlinkRoute
