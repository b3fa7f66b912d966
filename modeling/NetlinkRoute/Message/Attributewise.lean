import NetlinkRoute.Message.Kinds
/-!
# Messages of all families — one attribute at a time

A message is accepted exactly when each of its attributes is, in a message
of its own with the same header, and it is parsed as what these are parsed
as, in their order (`deserialize_eq_ok_iff_attributewise`). Two families
carry something from one attribute to others: a route the encapsulation
type that is in it, wherever it stands, and a discipline the last kind in
front. As long as these are the same, an attribute that comes in another
place is parsed as what it was, in that place (`reordered_of_deserialize`).
-/

namespace NetlinkRoute

open PacketUtils

section

variable [PacketUtils] {hdr : Bytes} {l : List (UInt16 × Bytes)}

/-! ## Disciplines and filters -/

namespace TcAttribute

variable {pre : List (UInt16 × Bytes)} {a : UInt16 × Bytes} {nb : NlaBuffer} {x : TcAttribute}

/-- The most recent kind, and none at first. -/
def kindBefore (pre : List (UInt16 × Bytes)) : String :=
  ((lastSome? (payloadOf TCA_KIND) pre).bind textOf).getD ""

omit [PacketUtils] in
/-- The kind in force changes with each kind attribute and with nothing
else. -/
theorem kindBefore_concat : kindBefore (pre ++ [a]) =
    if kindOf a = TCA_KIND then (textOf a.2).getD "" else kindBefore pre := by
  rw [kindBefore, lastSome?_concat, payloadOf]
  split_ifs <;> rfl

/-- An attribute is a kind when it is one on the wire, and then its text. -/
theorem nextKind_eq (hc : Carries nb a.1 a.2)
    (h : parseWithParam nb (kindBefore pre) = .ok x) :
    x.nextKind (kindBefore pre) = kindBefore (pre ++ [a]) := by
  have hkind : x.nla.kind &&& NLA_TYPE_MASK = kindOf a := by
    have hkeeps := keepsKind nb hc.valid x h
    rwa [wireKind, hc.word_eq] at hkeeps
  rw [kindBefore_concat]
  by_cases hk : kindOf a = TCA_KIND
  · rw [if_pos hk]
    rw [parseWithParam, hc.bind, select, if_pos hk] at h
    obtain ⟨s, hs, rfl⟩ := (Outcome.map_eq_ok _).1 h
    rw [Outcome.context_eq_ok, parseString_eq_ok_iff] at hs
    rw [nextKind, hs, Option.getD_some]
  · rw [if_neg hk]
    cases x with
    | kind_ s =>
      have hmask : TCA_KIND &&& NLA_TYPE_MASK = TCA_KIND := by decide
      exact absurd (hkind.symm.trans hmask) hk
    | _ => rfl

/-- What is made of an attribute behind these. -/
def Reads (pre : List (UInt16 × Bytes)) (a : UInt16 × Bytes) (x : TcAttribute) : Prop :=
  parseWithParam (nlaOf a) (kindBefore pre) = .ok x

/-- A step reads the attribute under the kind in force and moves the kind
on. -/
theorem step_kindBefore (ha : a.2.length ≤ 65531) {s : String} :
    step (kindBefore pre) (nlaOf a) = .ok (s, x) ↔ Reads pre a x ∧ s = kindBefore (pre ++ [a]) := by
  rw [step, Outcome.bind_eq_ok]
  constructor
  · rintro ⟨y, hy, heq⟩
    obtain ⟨rfl, rfl⟩ := Prod.mk.inj (Outcome.ok.inj heq)
    exact ⟨hy, nextKind_eq (carries_nlaOf ha) hy⟩
  · rintro ⟨hx, rfl⟩
    exact ⟨x, hx, by rw [nextKind_eq (carries_nlaOf ha) hx]⟩

/-- In another order each attribute still has the same kind in front of
it. -/
def SameKinds {n : ℕ} (fields : Fin n → UInt16 × Bytes) (σ : Equiv.Perm (Fin n)) : Prop :=
  ∀ i : Fin n,
    kindBefore ((List.ofFn (fields ∘ σ)).take i) = kindBefore ((List.ofFn fields).take (σ i))

end TcAttribute

/-- **Each attribute is read with the kind that the last of these in front
of it names.** -/
theorem TcMessage.decode_encodeNlas_eq_ok_iff {m : TcMessage} (hlen : hdr.length = 20)
    (hl : Consistent l) : decode (hdr ++ encodeNlas l) = .ok m ↔
      TcHeader.codec.parse hdr = .ok m.header ∧ EachWith TcAttribute.Reads l m.attributes := by
  refine (sequential.decode_encodeNlas_eq_ok_iff hlen hl).trans (and_congr_right fun _ => ?_)
  exact @forEachFrom_eq_ok_iff _ _ l _ _ TcAttribute.kindBefore TcAttribute.Reads
    (fun _ a ha _ _ => TcAttribute.step_kindBefore (hl a ha)) [] m.attributes

/-! ## Messages of all families -/

/-- A decoder makes of a header a message with nothing in it, and of each
attribute behind the header a message with one. -/
def Alone {η α : Type} (decode : Bytes → Outcome (Message η α)) (hdr : Bytes)
    (l : List (UInt16 × Bytes)) (m : Message η α) : Prop :=
  decode hdr = .ok ⟨m.header, []⟩ ∧
    List.Forall₂ (fun a x => decode (hdr ++ encodeNlas [a]) = .ok ⟨m.header, [x]⟩) l m.attributes

namespace RouteNetlinkMessage

variable {m : RouteNetlinkMessage} {t : UInt16}

/-- What a message is by its attributes, one at a time. Those of a route
are read with the encapsulation type that is among them, those of traffic
control with the kind in front of them, and those of a tunnel hold its
identifiers. -/
def attributewise (hdr : Bytes) (l : List (UInt16 × Bytes)) : Families Prop where
  link msg := Alone LinkMessage.decode hdr l msg
  address msg := Alone AddressMessage.format.decode hdr l msg
  neighbour msg := Alone NeighbourMessage.format.decode hdr l msg
  neighbourTable msg := Alone NeighbourTableMessage.format.decode hdr l msg
  route msg := RouteHeader.parse hdr = .ok msg.header ∧ List.Forall₂ (fun a x =>
    RouteAttribute.parseWithParam (RouteMessage.contextOf msg.header l) (nlaOf a) = .ok x)
      l msg.attributes
  prefixes msg := Alone PrefixMessage.format.decode hdr l msg
  tc msg := TcHeader.codec.parse hdr = .ok msg.header ∧ EachWith TcAttribute.Reads l msg.attributes
  tcAction msg := Alone TcActionMessage.decode hdr l msg
  mdb msg := Alone MdbMessage.format.decode hdr l msg
  tunnel msg := TunnelHeader.codec.parse hdr = .ok msg.header ∧ msg.vnis = TunnelMessage.starts l
  nexthop msg := Alone NexthopMessage.format.decode hdr l msg
  nsid msg := Alone NsidMessage.format.decode hdr l msg
  rule msg := Alone RuleMessage.format.decode hdr l msg

/-- Family by family. -/
theorem decodedFrom_iff_attributewise (hl : Consistent l) (hlen : hdr.length = m.headerLen) :
    m.inFamily (decodedFrom (hdr ++ encodeNlas l)) ↔ m.inFamily (attributewise hdr l) := by
  cases m with
  | newLink msg | delLink msg | getLink msg | setLink msg | newLinkProp msg | delLinkProp msg =>
    have h := LinkMessage.each.decode_eq_ok_iff_alone (m := msg) hlen hl
    simp only [← LinkMessage.decode_eq] at h
    exact h
  | newAddress msg | delAddress msg | getAddress msg =>
    exact AddressMessage.each.decode_eq_ok_iff_alone hlen hl
  | newNeighbour msg | getNeighbour msg | delNeighbour msg =>
    exact NeighbourMessage.each.decode_eq_ok_iff_alone hlen hl
  | newNeighbourTable msg | getNeighbourTable msg | setNeighbourTable msg =>
    exact NeighbourTableMessage.each.decode_eq_ok_iff_alone hlen hl
  | newRoute msg | delRoute msg | getRoute msg =>
    exact (RouteMessage.decode_encodeNlas_eq_ok_iff hlen hl).trans
      (and_congr_right fun _ => forEach_eq_ok_iff)
  | newPrefix msg => exact PrefixMessage.each.decode_eq_ok_iff_alone hlen hl
  | newTrafficAction msg | delTrafficAction msg | getTrafficAction msg =>
    have h := TcActionMessage.each.decode_eq_ok_iff_alone (m := msg) hlen hl
    simp only [← TcActionMessage.decode_eq] at h
    exact h
  | newMdb msg | delMdb msg | getMdb msg => exact MdbMessage.each.decode_eq_ok_iff_alone hlen hl
  | newTunnel msg | delTunnel msg | getTunnel msg =>
    exact TunnelMessage.decode_encodeNlas_eq_ok_iff hlen hl
  | newNexthop msg | delNexthop msg | getNexthop msg =>
    exact NexthopMessage.each.decode_eq_ok_iff_alone hlen hl
  | newNsId msg | delNsId msg | getNsId msg =>
    exact NsidMessage.each.decode_eq_ok_iff_alone hlen hl
  | newRule msg | delRule msg | getRule msg =>
    exact RuleMessage.each.decode_eq_ok_iff_alone hlen hl
  | _ msg => exact TcMessage.decode_encodeNlas_eq_ok_iff hlen hl

/-- **A message is what its attributes are**: under every message type, it
is accepted exactly when each of them is, and parsed as what they are. -/
theorem deserialize_eq_ok_iff_attributewise (hl : Consistent l) (hlen : hdr.length = m.headerLen) :
    deserialize t (hdr ++ encodeNlas l) = .ok m ↔
      m.messageType = t ∧ ¬ m.IsLinkProp ∧ m.inFamily (attributewise hdr l) := by
  rw [← decodedFrom_iff_attributewise hl hlen]
  constructor
  · intro h
    obtain ⟨hprop, hm | hreq⟩ := holds_parseWithParam m h
    · exact ⟨messageType_of_parseWithParam h, hprop, hm⟩
    · have hlt := length_lt_of_requestOf hreq
      rw [List.length_append] at hlt
      omega
  · rintro ⟨rfl, hprop, hm⟩
    exact parseWithParam_of_decodedFrom hprop hm

/-! ### In another order -/

section Order

variable {n : ℕ} {fields : Fin n → UInt16 × Bytes} {σ : Equiv.Perm (Fin n)}

/-- The bytes of a message whose attributes come in another order. -/
def rearranged (hdr : Bytes) (fields : Fin n → UInt16 × Bytes) (σ : Equiv.Perm (Fin n)) : Bytes :=
  hdr ++ encodeNlas (List.ofFn (fields ∘ σ))

/-- A decoder makes of a string what the message is with its attributes in
the other order: each place has the attribute that `σ` names for it. -/
def Reorders {η α : Type} (σ : Equiv.Perm (Fin n)) (decode : Bytes → Outcome (Message η α))
    (b : Bytes) (m : Message η α) : Prop :=
  ∃ as : Fin n → α, m.attributes = List.ofFn as ∧
    decode b = .ok ⟨m.header, List.ofFn (as ∘ σ)⟩

/-- What each family's decoder makes of the message when its attributes come
in another order: the same attributes, each in its new place. A route has to
be given the same encapsulation type, and each attribute of traffic control
the same kind to be read with. A tunnel has in place of an attribute the
identifiers of an entry. -/
def reordered (hdr : Bytes) (fields : Fin n → UInt16 × Bytes) (σ : Equiv.Perm (Fin n)) :
    Families Prop where
  link msg := Reorders σ LinkMessage.decode (rearranged hdr fields σ) msg
  address msg := Reorders σ AddressMessage.format.decode (rearranged hdr fields σ) msg
  neighbour msg := Reorders σ NeighbourMessage.format.decode (rearranged hdr fields σ) msg
  neighbourTable msg := Reorders σ NeighbourTableMessage.format.decode (rearranged hdr fields σ) msg
  route msg := (List.ofFn (fields ∘ σ)).findSome? RouteMessage.encapTypeIn =
      (List.ofFn fields).findSome? RouteMessage.encapTypeIn →
    ∃ as : Fin n → RouteAttribute, msg.attributes = List.ofFn as ∧
      RouteMessage.decode (rearranged hdr fields σ) = .ok ⟨msg.header, List.ofFn (as ∘ σ)⟩
  prefixes msg := Reorders σ PrefixMessage.format.decode (rearranged hdr fields σ) msg
  tc msg := TcAttribute.SameKinds fields σ →
    Reorders σ TcMessage.decode (rearranged hdr fields σ) msg
  tcAction msg := Reorders σ TcActionMessage.decode (rearranged hdr fields σ) msg
  mdb msg := Reorders σ MdbMessage.format.decode (rearranged hdr fields σ) msg
  tunnel msg := msg.vnis = (List.ofFn fun i => TunnelMessage.starts [fields i]).flatten ∧
    TunnelMessage.decode (rearranged hdr fields σ) =
      .ok ⟨msg.header, (List.ofFn fun i => TunnelMessage.starts [fields (σ i)]).flatten⟩
  nexthop msg := Reorders σ NexthopMessage.format.decode (rearranged hdr fields σ) msg
  nsid msg := Reorders σ NsidMessage.format.decode (rearranged hdr fields σ) msg
  rule msg := Reorders σ RuleMessage.format.decode (rearranged hdr fields σ) msg

/-- The attributes of traffic control, in an order that leaves each the same
kind in front. -/
theorem reorders_tc {msg : TcMessage} (hl : ∀ i, (fields i).2.length ≤ 65531)
    (hlen : hdr.length = 20) (hkinds : TcAttribute.SameKinds fields σ)
    (h : TcMessage.decode (hdr ++ encodeNlas (List.ofFn fields)) = .ok msg) :
    Reorders σ TcMessage.decode (rearranged hdr fields σ) msg := by
  have hl' : ∀ i, ((fields ∘ σ) i).2.length ≤ 65531 := fun i => hl (σ i)
  obtain ⟨hh, has⟩ := (TcMessage.decode_encodeNlas_eq_ok_iff hlen (consistent_ofFn.2 hl)).1 h
  obtain ⟨as, hattr, has⟩ := eachWith_ofFn_iff.1 has
  refine ⟨as, hattr, (TcMessage.decode_encodeNlas_eq_ok_iff hlen (consistent_ofFn.2 hl')).2
    ⟨hh, eachWith_ofFn_iff.2 ⟨as ∘ σ, rfl, fun i => ?_⟩⟩⟩
  rw [TcAttribute.Reads, hkinds i]
  exact has (σ i)

/-- Family by family. -/
theorem reordered_of_decodedFrom (hl : ∀ i, (fields i).2.length ≤ 65531) (σ : Equiv.Perm (Fin n)) :
    ((decodedFrom (hdr ++ encodeNlas (List.ofFn fields))).map₂
      (fun P k => P ∧ hdr.length = k) headerLens).Implies (reordered hdr fields σ) where
  link msg h := by
    obtain ⟨as, hattr, hdec⟩ := LinkMessage.each.decode_comp h.2 hl σ
      (LinkMessage.decode_eq.symm.trans h.1)
    exact ⟨as, hattr, LinkMessage.decode_eq.trans hdec⟩
  address _ h := AddressMessage.each.decode_comp h.2 hl σ h.1
  neighbour _ h := NeighbourMessage.each.decode_comp h.2 hl σ h.1
  neighbourTable _ h := NeighbourTableMessage.each.decode_comp h.2 hl σ h.1
  route _ h hencap := RouteMessage.decode_comp_of_findSome? h.2 hl σ hencap h.1
  prefixes _ h := PrefixMessage.each.decode_comp h.2 hl σ h.1
  tc _ h hkinds := reorders_tc hl h.2 hkinds h.1
  tcAction msg h := by
    obtain ⟨as, hattr, hdec⟩ := TcActionMessage.each.decode_comp h.2 hl σ
      (TcActionMessage.decode_eq.symm.trans h.1)
    exact ⟨as, hattr, TcActionMessage.decode_eq.trans hdec⟩
  mdb _ h := MdbMessage.each.decode_comp h.2 hl σ h.1
  tunnel _ h := TunnelMessage.decode_comp h.2 hl σ h.1
  nexthop _ h := NexthopMessage.each.decode_comp h.2 hl σ h.1
  nsid _ h := NsidMessage.each.decode_comp h.2 hl σ h.1
  rule _ h := RuleMessage.each.decode_comp h.2 hl σ h.1

/-- **The order of the attributes decides nothing but the order of what is
made of them**, in every family: place by place, what is parsed is what the
attribute that is there was parsed as. -/
theorem reordered_of_deserialize (hl : ∀ i, (fields i).2.length ≤ 65531) (σ : Equiv.Perm (Fin n))
    (h : deserialize t (hdr ++ encodeNlas (List.ofFn fields)) = .ok m)
    (hlen : hdr.length = m.headerLen) : m.inFamily (reordered hdr fields σ) := by
  obtain ⟨-, hm | hreq⟩ := holds_parseWithParam m h
  · have hboth : m.inFamily ((decodedFrom (hdr ++ encodeNlas (List.ofFn fields))).map₂
        (fun P k => P ∧ hdr.length = k) headerLens) := by
      rw [inFamily_map₂]
      exact ⟨hm, hlen⟩
    exact inFamily_mono (reordered_of_decodedFrom hl σ) m hboth
  · have hlt := length_lt_of_requestOf hreq
    rw [List.length_append] at hlt
    omega

end Order

end RouteNetlinkMessage

end

/-! ## On a little-endian host -/

section Kinds

attribute [local instance] Reference.little

namespace RouteNetlinkMessage

/-- Options in front of the kind of a discipline, and behind it. -/
theorem htb_attributewise : (newQueueDiscipline TcMessage.htb).inFamily (attributewise (zeros 20)
    [(TCA_OPTIONS, [1, 2, 3, 4]), (TCA_KIND, [104, 116, 98, 0]), (TCA_OPTIONS, [5, 6, 7, 8])]) :=
  ((deserialize_eq_ok_iff_attributewise (t := RTM_NEWQDISC) (by simp [Consistent]) rfl).1 rfl).2.2

/-- With the flags in front it is the same address. -/
theorem labelled_reordered : labelled.inFamily (reordered [2, 8, 0, 254, 1, 0, 0, 0]
    ![(3, [108, 111, 0]), (8, [128, 0, 0, 0])] (Equiv.swap 0 1)) :=
  reordered_of_deserialize (t := RTM_NEWADDR) (by decide) (Equiv.swap 0 1) rfl rfl

end RouteNetlinkMessage

end Kinds

end NetlinkRoute
