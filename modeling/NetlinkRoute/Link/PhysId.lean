import NetlinkRoute.Common.Carried
import NetlinkRoute.Common.Reference
import NetlinkRoute.Link.RoundTrip.Attribute
/-!
# Link — identifiers of ports and switches

The length of an identifier is taken modulo the size of its place, so what
is kept of a payload are its first bytes up to that remainder
(`LinkPhysId.parse_eq`), and two payloads of which the same is kept are one
identifier (`LinkPhysId.ofPayload_inj`). Of a payload that would fill the place
nothing is kept, and of a longer one never as much as there is place for. So
identifiers are what they should be, and told apart, exactly where none of
them fills the place (`LinkPhysId.identifies`).
-/

namespace NetlinkRoute

open PacketUtils Emitter

namespace LinkPhysId

variable {p q : Bytes}

/-- What is kept of a payload. -/
def keptOf (p : Bytes) : Bytes := p.take (p.length % 32)

/-- As many bytes are kept as the length leaves behind a division by 32. -/
theorem length_keptOf : (keptOf p).length = p.length % 32 := by
  rw [keptOf, List.length_take]
  exact Nat.min_eq_left (Nat.mod_le _ _)

/-- A shorter identifier is kept whole. -/
theorem keptOf_of_lt (h : p.length < 32) : keptOf p = p := by
  rw [keptOf, Nat.mod_eq_of_lt h, List.take_length]

/-- The identifier that a payload is decoded to. -/
def ofPayload (p : Bytes) : LinkPhysId := ⟨.ofBytes 32 (keptOf p), p.length % 32⟩

/-- The parser gives the identifier of every payload. -/
theorem parse_eq : parse p = .ok (ofPayload p) := by
  rw [parse, slice_ok (Nat.zero_le _) (Nat.mod_le _ _)]
  rfl

/-- The bytes in use are those that were kept. -/
theorem take_ofPayload : (ofPayload p).id.val.take (ofPayload p).len = keptOf p := by
  have hlt : p.length % 32 < 32 := Nat.mod_lt _ (by decide)
  have htake := Octets.take_ofBytes (b := keptOf p) (n := 32) (by rw [length_keptOf]; omega)
  rwa [length_keptOf] at htake

/-- Two payloads give one identifier exactly where they keep the same bytes.
-/
theorem ofPayload_inj : ofPayload p = ofPayload q ↔ keptOf p = keptOf q := by
  constructor
  · intro h
    rw [← take_ofPayload, h, take_ofPayload]
  · intro h
    rw [ofPayload, ofPayload, h, ← length_keptOf, h, length_keptOf]

/-- The identifier of a payload is canonical. -/
theorem canonical_ofPayload : (ofPayload p).Canonical :=
  (Outcome.holds_ok _).1 (parse_eq ▸ holds_parse)

/-! ## As an attribute -/

section

variable [PacketUtils] {family : AddressFamily} {kind word : UInt16} {nb nb' : NlaBuffer}
  {mk : LinkPhysId → LinkAttribute}

/-- A payload is an identifier, or too long for one. -/
structure Identified (family : AddressFamily) (nb : NlaBuffer) (p : Bytes)
    (mk : LinkPhysId → LinkAttribute) : Prop where
  fitting : p.length ≤ 32 → ∃ v, LinkAttribute.parseWithParam family nb = .ok (mk v) ∧
    v.len = p.length ∧ p <+: v.id.val ∧ (mk v).nla.Payload p
  longer : 32 < p.length → (∃ e, LinkAttribute.parseWithParam family nb = .err e) ∨
    ∃ v, LinkAttribute.parseWithParam family nb = .ok (mk v) ∧ v.id.val.take v.len = p.take 32
  inside : ∀ v, LinkAttribute.parseWithParam family nb = .ok (mk v) →
    ∀ b, b.length = v.bufferLen → ∃ b', v.emit.run b = .ok b'

/-- Payloads that differ in the place are told apart. -/
def ToldApart (family : AddressFamily) (nb nb' : NlaBuffer) (p q : Bytes)
    (mk : LinkPhysId → LinkAttribute) : Prop :=
  p.take 32 ≠ q.take 32 → ∀ v, LinkAttribute.parseWithParam family nb = .ok (mk v) →
    LinkAttribute.parseWithParam family nb' ≠ .ok (mk v)

/-- An attribute that holds an identifier tells payloads apart exactly below
32 bytes. -/
theorem identified_iff (hread : LinkAttribute.parseWithParam family nb = .ok (mk (ofPayload p)))
    (hinj : Function.Injective mk)
    (hnla : ∀ v, (mk v).nla.emitValue = v.emit ∧ (mk v).nla.valueLen = v.bufferLen) :
    Identified family nb p mk ↔ p.length < 32 := by
  have hval : ∀ {v}, LinkAttribute.parseWithParam family nb = .ok (mk v) → v = ofPayload p :=
    fun h => hinj (Outcome.ok.inj (h.symm.trans hread))
  constructor
  · intro h
    by_contra hlt
    rcases Nat.eq_or_lt_of_le (Nat.not_lt.1 hlt) with heq | hgt
    · -- a payload that fills the place: the remainder is zero
      obtain ⟨v, hv, hlen, -⟩ := h.fitting (Nat.le_of_eq heq.symm)
      obtain rfl := hval hv
      have hlen : p.length % 32 = p.length := hlen
      omega
    · rcases h.longer hgt with ⟨e, he⟩ | ⟨v, hv, htake⟩
      · rw [hread] at he
        cases he
      · obtain rfl := hval hv
        have hlen := congrArg List.length htake
        rw [take_ofPayload, length_keptOf, List.length_take] at hlen
        omega
  · intro hlt
    have hkept : (ofPayload p).id.val.take (ofPayload p).len = p :=
      take_ofPayload.trans (keptOf_of_lt hlt)
    have hprefix := List.take_prefix (ofPayload p).len (ofPayload p).id.val
    have hfills := fills_emit (canonical_ofPayload (p := p))
    rw [hkept] at hprefix hfills
    have hpayload : (mk (ofPayload p)).nla.Payload p := by
      rwa [Nla.Payload, (hnla _).1, (hnla _).2]
    refine ⟨fun _ => ⟨_, hread, Nat.mod_eq_of_lt hlt, hprefix, hpayload⟩,
      fun hgt => absurd hgt (by omega), fun v hv b hb => ?_⟩
    obtain rfl := hval hv
    exact ⟨_, (writes_emit canonical_ofPayload).run_eq b hb⟩

/-- What is told apart, exactly. -/
theorem toldApart_iff (hread : LinkAttribute.parseWithParam family nb = .ok (mk (ofPayload p)))
    (hread' : LinkAttribute.parseWithParam family nb' = .ok (mk (ofPayload q)))
    (hinj : Function.Injective mk) :
    ToldApart family nb nb' p q mk ↔ (keptOf p = keptOf q → p.take 32 = q.take 32) := by
  rw [ToldApart, ← ofPayload_inj]
  constructor
  · intro h heq
    by_contra hne
    exact h hne _ hread (heq ▸ hread')
  · intro h hne v hv hv'
    obtain rfl := hinj (Outcome.ok.inj (hread.symm.trans hv))
    exact hne (h (hinj (Outcome.ok.inj (hv'.symm.trans hread'))))

/-- Identifiers of a kind, as they should be. -/
structure Identifies (family : AddressFamily) (kind : UInt16) (mk : LinkPhysId → LinkAttribute) :
    Prop where
  all_iff : ∀ nb nb' word word' p q, Carries nb word p → word &&& NLA_TYPE_MASK = kind →
    Carries nb' word' q → word' &&& NLA_TYPE_MASK = kind →
      (Identified family nb p mk ∧ Identified family nb' q mk ∧ ToldApart family nb nb' p q mk ↔
        p.length < 32 ∧ q.length < 32)

/-- Two arms that decode the payload of their kind so. -/
theorem identifies_of (hinj : Function.Injective mk)
    (hnla : ∀ v, (mk v).nla.emitValue = v.emit ∧ (mk v).nla.valueLen = v.bufferLen)
    (harm : ∀ nb word p, Carries nb word p → word &&& NLA_TYPE_MASK = kind →
      LinkAttribute.parseWithParam family nb = .ok (mk (ofPayload p))) :
    Identifies family kind mk where
  all_iff nb nb' word word' p q hc hk hc' hk' := by
    have hread := harm nb word p hc hk
    have hread' := harm nb' word' q hc' hk'
    rw [identified_iff hread hinj hnla, identified_iff hread' hinj hnla,
      toldApart_iff hread hread' hinj]
    refine ⟨fun h => ⟨h.1, h.2.1⟩, fun ⟨hp, hq⟩ => ⟨hp, hq, fun heq => ?_⟩⟩
    rw [keptOf_of_lt hp, keptOf_of_lt hq] at heq
    rw [heq]

/-- **Identifiers are what they should be exactly where they do not fill the
place.** -/
theorem identifies (family : AddressFamily) :
    Identifies family IFLA_PHYS_PORT_ID .physPortId ∧
      Identifies family IFLA_PHYS_SWITCH_ID .physSwitchId := by
  constructor
  · refine identifies_of (fun _ _ => LinkAttribute.physPortId.inj) (fun _ => ⟨rfl, rfl⟩)
      fun nb word p hc hk => ?_
    rw [LinkAttribute.parseWithParam, LinkAttribute.parseOver, hc.bind, hk, select_of_find rfl]
    show LinkAttribute.physPortId <$> (parse p).context _ = _
    rw [parse_eq]
    rfl
  · refine identifies_of (fun _ _ => LinkAttribute.physSwitchId.inj) (fun _ => ⟨rfl, rfl⟩)
      fun nb word p hc hk => ?_
    rw [LinkAttribute.parseWithParam, LinkAttribute.parseOver, hc.bind, hk, select_of_find rfl]
    show LinkAttribute.physSwitchId <$> (parse p).context _ = _
    rw [parse_eq]
    rfl

end

/-! ## On a little-endian host -/

section

attribute [local instance] Reference.little

/-- An identifier that fills the place. -/
def fullId : Bytes := List.replicate 32 1

/-- It is decoded to one of no bytes, as the one whose bytes are twos is. -/
theorem fullId_lost :
    LinkAttribute.parseWithParam .unspec (nlaOf (IFLA_PHYS_PORT_ID, fullId)) =
      .ok (.physPortId ⟨.ofBytes 32 [], 0⟩) ∧
    ¬ Identified .unspec (nlaOf (IFLA_PHYS_PORT_ID, fullId)) fullId .physPortId ∧
    ¬ ToldApart .unspec (nlaOf (IFLA_PHYS_PORT_ID, fullId))
      (nlaOf (IFLA_PHYS_PORT_ID, List.replicate 32 2)) fullId (List.replicate 32 2)
      .physPortId := by
  have hread : LinkAttribute.parseWithParam .unspec (nlaOf (IFLA_PHYS_PORT_ID, fullId)) =
    .ok (.physPortId ⟨.ofBytes 32 [], 0⟩) := rfl
  refine ⟨hread, fun h => ?_, fun h => ?_⟩
  · obtain ⟨v, hv, hlen, -⟩ := h.fitting (by decide)
    obtain rfl := LinkAttribute.physPortId.inj (Outcome.ok.inj (hread.symm.trans hv))
    cases hlen
  · exact h (by decide) _ hread rfl

end

end LinkPhysId

end NetlinkRoute
