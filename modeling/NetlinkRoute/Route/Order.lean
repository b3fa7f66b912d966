import Mathlib.Data.Fin.VecNotation
import Mathlib.Data.List.FinRange
import NetlinkRoute.Common.Carried
import NetlinkRoute.Route.Message
/-!
# Route — attributes in another order

The encapsulation type that attributes are decoded with is looked for in a
pass of its own, so a message is decoded attribute by attribute, with the
type that one of them carries (`RouteMessage.decode_encodeNlas`). Where no
second one carries a type, their order is that of what comes back and
decides nothing else (`RouteMessage.orderFree`).
-/

namespace NetlinkRoute

open PacketUtils

section

variable [PacketUtils]

/-! ## One attribute -/

namespace RouteAttribute

variable {ctx : RouteContext}

/-- An attribute of a route is parsed from its kind word and payload. -/
theorem local_parseWithParam : Local (parseWithParam ctx) := by
  intro nb nb' word v h h'
  have hencap : RouteLwTunnelEncap.parseVec ctx.encapType nb =
      RouteLwTunnelEncap.parseVec ctx.encapType nb' := by
    rw [RouteLwTunnelEncap.parseVec, RouteLwTunnelEncap.parseVec, local_value h h']
  rw [parseWithParam_of_carries h, parseWithParam_of_carries h', local_defaultNla h h', arms, arms,
    hencap]

/-- An attribute of another kind is handed through. -/
theorem parseWithParam_other {nb : NlaBuffer} {word : UInt16} {v : Bytes} (h : Carries nb word v)
    (hk : word &&& NLA_TYPE_MASK ∉ kinds) : parseWithParam ctx nb = .ok (.other ⟨word, v⟩) := by
  rw [parseWithParam_of_carries h, select_default (by exact hk), h.defaultNla]
  rfl

/-- An encapsulation is decoded with the type of the context. -/
theorem parseWithParam_encap {nb : NlaBuffer} {word : UInt16} {v : Bytes} (h : Carries nb word v)
    (hk : word &&& NLA_TYPE_MASK = RTA_ENCAP) :
    parseWithParam ctx nb = .encap <$> RouteLwTunnelEncap.parseVec ctx.encapType nb := by
  rw [parseWithParam_of_carries h, hk, select_of_find rfl]

end RouteAttribute

/-- The header is read from its own bytes. -/
theorem RouteHeader.parse_append {hdr : Bytes} (hlen : hdr.length = bufferLen) (rest : Bytes) :
    parse (hdr ++ rest) = parse hdr := by
  have hlen : hdr.length = 12 := hlen
  simp (disch := omega) only [parse, getU8_inside, getU32_inside]

/-! ## Messages -/

namespace RouteMessage

variable {hdr : Bytes} {l : List (UInt16 × Bytes)}

/-- The number of an encapsulation type, in an attribute that carries
one. -/
def encapTypeIn (a : UInt16 × Bytes) : Option UInt16 :=
  if a.1 &&& NLA_TYPE_MASK = RTA_ENCAP_TYPE ∧ a.2.length = 2 then some (ne.toU16 a.2) else none

/-- The type in force is the first one of the list. -/
theorem firstEncapType_encodeNlas (hl : Consistent l) :
    firstEncapType (encodeNlas l) = l.findSome? encapTypeIn := by
  have hread := nlas_encodeNlas hl
  rw [firstEncapType]
  generalize nlas (encodeNlas l) = os at hread
  clear hl
  induction hread with
  | nil => rfl
  | @cons o a os l ho _ ih =>
    obtain ⟨nb, rfl, hc⟩ := ho
    have ha : encapTypeNum? (.ok nb) = encapTypeIn a := by
      rw [encapTypeNum?, hc.word_eq, hc.value_eq, encapTypeIn]
    rw [List.findSome?_cons, List.findSome?_cons, ha, ih]

/-- The context of a message that carries these attributes. -/
def contextOf (header : RouteHeader) (l : List (UInt16 × Bytes)) : RouteContext :=
  ⟨header.addressFamily, header.kind, encapTypeOfNum (l.findSome? encapTypeIn)⟩

/-- **A message is decoded attribute by attribute**, with the type that one
of them carries. -/
theorem decode_encodeNlas (hlen : hdr.length = RouteHeader.bufferLen) (hl : Consistent l) :
    decode (hdr ++ encodeNlas l) = (do
      let header ← RouteHeader.parse hdr
      let attributes ← (forEach (fun a => RouteAttribute.parseWithParam (contextOf header l)
        (nlaOf a)) l).context "failed to parse route message NLAs"
      .ok ⟨header, attributes⟩) := by
  have hle : RouteHeader.bufferLen ≤ (hdr ++ encodeNlas l).length := by
    rw [List.length_append, hlen]
    exact Nat.le_add_right _ _
  obtain ⟨header, hh, -⟩ := RouteHeader.parse_of_le (Nat.le_of_eq hlen.symm)
  rw [decode, checkedBuffer_of_le hle, Outcome.ok_bind, parse, RouteHeader.parse_append hlen, hh,
    Outcome.context_ok, Outcome.ok_bind, Outcome.ok_bind, parseAttributes, sliceFrom_ok hle,
    List.drop_left' hlen, Outcome.ok_bind, findEncapType_nlas, Outcome.ok_bind,
    firstEncapType_encodeNlas hl]
  -- the loop over the buffers is `parseEach`, in the context that was found first
  change (do
    let attributes ← (forEach (fun nla => do
      RouteAttribute.parseWithParam (contextOf header l) (← nla)) (nlas (encodeNlas l))).context _
    .ok (⟨header, attributes⟩ : RouteMessage)) = _
  rw [← parseEach, parseEach_encodeNlas RouteAttribute.local_parseWithParam hl]

/-- How a message that carries these attributes was decoded. -/
theorem decode_encodeNlas_eq_ok_iff {m : RouteMessage}
    (hlen : hdr.length = RouteHeader.bufferLen) (hl : Consistent l) :
    decode (hdr ++ encodeNlas l) = .ok m ↔ RouteHeader.parse hdr = .ok m.header ∧
      forEach (fun a => RouteAttribute.parseWithParam (contextOf m.header l) (nlaOf a)) l =
        .ok m.attributes := by
  obtain ⟨header, hh, -⟩ := RouteHeader.parse_of_le (Nat.le_of_eq hlen.symm)
  rw [decode_encodeNlas hlen hl, hh, Outcome.ok_bind, Outcome.bind_eq_ok]
  constructor
  · rintro ⟨as, has, h⟩
    cases h
    exact ⟨rfl, (Outcome.context_eq_ok _ _ _).1 has⟩
  · rintro ⟨h, has⟩
    cases h
    exact ⟨m.attributes, (Outcome.context_eq_ok _ _ _).2 has, rfl⟩

/-! ## Another order -/

variable {n : ℕ} {fields : Fin n → UInt16 × Bytes}

/-- No two of the attributes are of the kind of an encapsulation type. -/
def OneType (fields : Fin n → UInt16 × Bytes) : Prop :=
  ∀ i j, (fields i).1 &&& NLA_TYPE_MASK = RTA_ENCAP_TYPE →
    (fields j).1 &&& NLA_TYPE_MASK = RTA_ENCAP_TYPE → i = j

omit [PacketUtils] in
/-- One type in one order is one type in every order. -/
theorem OneType.comp (h : OneType fields) (σ : Equiv.Perm (Fin n)) : OneType (fields ∘ σ) := by
  intro i j hi hj
  exact σ.injective (h _ _ hi hj)

/-- Only an attribute of the kind carries a type. -/
theorem kind_of_encapTypeIn {a : UInt16 × Bytes} {d : UInt16} (h : encapTypeIn a = some d) :
    a.1 &&& NLA_TYPE_MASK = RTA_ENCAP_TYPE ∧ d = ne.toU16 a.2 := by
  unfold encapTypeIn at h
  by_cases ha : a.1 &&& NLA_TYPE_MASK = RTA_ENCAP_TYPE ∧ a.2.length = 2
  · rw [if_pos ha] at h
    exact ⟨ha.1, (Option.some.inj h).symm⟩
  · rw [if_neg ha] at h
    cases h

/-- One type is found in any order. -/
theorem contextOf_comp (h : OneType fields) (header : RouteHeader) (σ : Equiv.Perm (Fin n)) :
    contextOf header (List.ofFn (fields ∘ σ)) = contextOf header (List.ofFn fields) := by
  rw [contextOf, contextOf]
  congr 2
  refine findSome?_congr_mem (fun _ => (Equiv.Perm.ofFn_comp_perm σ fields).mem_iff) ?_
  intro x hx y hy a b ha hb
  obtain ⟨i, rfl⟩ := List.mem_ofFn.1 hx
  obtain ⟨j, rfl⟩ := List.mem_ofFn.1 hy
  obtain ⟨hi, rfl⟩ := kind_of_encapTypeIn ha
  obtain ⟨hj, rfl⟩ := kind_of_encapTypeIn hb
  rw [h.comp σ i j hi hj]

/-- How a message that carries a family of attributes was decoded. -/
theorem decode_ofFn_eq_ok_iff {m : RouteMessage} (hlen : hdr.length = RouteHeader.bufferLen)
    (hl : ∀ i, (fields i).2.length ≤ 65531) :
    decode (hdr ++ encodeNlas (List.ofFn fields)) = .ok m ↔
      RouteHeader.parse hdr = .ok m.header ∧ ∃ as : Fin n → RouteAttribute,
        m.attributes = List.ofFn as ∧ ∀ i, RouteAttribute.parseWithParam
          (contextOf m.header (List.ofFn fields)) (nlaOf (fields i)) = .ok (as i) := by
  rw [decode_encodeNlas_eq_ok_iff hlen (consistent_ofFn.2 hl), forEach_ofFn_eq_ok_iff]

/-- The type that all attributes of a decoded message are decoded with. -/
theorem encapType_contextOf {header : RouteHeader} {a : RouteAttribute} (h : OneType fields)
    {i : Fin n} (hi : (fields i).1 &&& NLA_TYPE_MASK = RTA_ENCAP_TYPE)
    (hl : (fields i).2.length ≤ 65531) (hok : RouteAttribute.parseWithParam
      (contextOf header (List.ofFn fields)) (nlaOf (fields i)) = .ok a) :
    (contextOf header (List.ofFn fields)).encapType =
      RouteLwEnCapType.codec.ofNum (ne.toU16 (fields i).2) := by
  have hc := carries_nlaOf hl
  rw [RouteAttribute.parseWithParam_encapType hc.valid (by rw [hc.word_eq, hi]), hc.value_eq,
    Outcome.map_eq_ok] at hok
  obtain ⟨d, hd, -⟩ := hok
  have h2 : (fields i).2.length = 2 :=
    (parseU16_spec.eq_ok_iff.1 ((Outcome.context_eq_ok _ _ _).1 hd)).1
  have hsome : encapTypeIn (fields i) = some (ne.toU16 (fields i).2) := if_pos ⟨hi, h2⟩
  have hmem : fields i ∈ List.ofFn fields := List.mem_ofFn.2 ⟨i, rfl⟩
  -- the first type that is found is this one: there is no other of its kind
  have hfind : (List.ofFn fields).findSome? encapTypeIn = some (ne.toU16 (fields i).2) := by
    rcases hnone : (List.ofFn fields).findSome? encapTypeIn with _ | d'
    · rw [List.findSome?_eq_none_iff.1 hnone _ hmem] at hsome
      cases hsome
    · obtain ⟨x, hx, hfx⟩ := List.exists_of_findSome?_eq_some hnone
      obtain ⟨j, rfl⟩ := List.mem_ofFn.1 hx
      obtain ⟨hj, rfl⟩ := kind_of_encapTypeIn hfx
      rw [h j i hj hi]
  rw [contextOf, hfind, encapTypeOfNum]

/-- What is decoded does not depend on the order of what carries it: the
attributes come back in the order that they are in, if they come back at
all, and encapsulations as the type that one of them carries says. -/
structure OrderFree (hdr : Bytes) (fields : Fin n → UInt16 × Bytes) (σ : Equiv.Perm (Fin n)) :
    Prop where
  ok_iff : (∃ m, decode (hdr ++ encodeNlas (List.ofFn fields)) = .ok m) ↔
    ∃ m, decode (hdr ++ encodeNlas (List.ofFn (fields ∘ σ))) = .ok m
  permuted : ∀ m, decode (hdr ++ encodeNlas (List.ofFn fields)) = .ok m →
    ∃ as : Fin n → RouteAttribute, m.attributes = List.ofFn as ∧
      decode (hdr ++ encodeNlas (List.ofFn (fields ∘ σ))) =
        .ok ⟨m.header, List.ofFn (as ∘ σ)⟩ ∧
      ∀ i j, (fields i).1 &&& NLA_TYPE_MASK = RTA_ENCAP_TYPE →
        (fields j).1 &&& NLA_TYPE_MASK = RTA_ENCAP → ∃ encaps, as j = .encap encaps ∧
          RouteLwTunnelEncap.parseVec (RouteLwEnCapType.codec.ofNum (ne.toU16 (fields i).2))
            (nlaOf (fields j)) = .ok encaps

/-- The attributes of a decoded message, in another order that gives the
same context. -/
theorem decode_comp {m : RouteMessage} (hlen : hdr.length = RouteHeader.bufferLen)
    (hl : ∀ i, (fields i).2.length ≤ 65531) (σ : Equiv.Perm (Fin n))
    (hctx : contextOf m.header (List.ofFn (fields ∘ σ)) = contextOf m.header (List.ofFn fields))
    {as : Fin n → RouteAttribute} (hheader : RouteHeader.parse hdr = .ok m.header)
    (has : ∀ i, RouteAttribute.parseWithParam (contextOf m.header (List.ofFn fields))
      (nlaOf (fields i)) = .ok (as i)) :
    decode (hdr ++ encodeNlas (List.ofFn (fields ∘ σ))) = .ok ⟨m.header, List.ofFn (as ∘ σ)⟩ := by
  have hl' : ∀ i, ((fields ∘ σ) i).2.length ≤ 65531 := fun i => hl (σ i)
  refine (decode_ofFn_eq_ok_iff hlen hl').2 ⟨hheader, as ∘ σ, rfl, fun i => ?_⟩
  rw [hctx]
  exact has (σ i)

/-- **The order of attributes decides only the order of attributes.** -/
theorem orderFree (hlen : hdr.length = RouteHeader.bufferLen)
    (hl : ∀ i, (fields i).2.length ≤ 65531) (h : OneType fields) (σ : Equiv.Perm (Fin n)) :
    OrderFree hdr fields σ where
  ok_iff := by
    constructor
    · rintro ⟨m, hm⟩
      obtain ⟨hheader, as, -, has⟩ := (decode_ofFn_eq_ok_iff hlen hl).1 hm
      exact ⟨_, decode_comp hlen hl σ (contextOf_comp h _ σ) hheader has⟩
    · rintro ⟨m, hm⟩
      have hl' : ∀ i, ((fields ∘ σ) i).2.length ≤ 65531 := fun i => hl (σ i)
      obtain ⟨hheader, as, -, has⟩ := (decode_ofFn_eq_ok_iff hlen hl').1 hm
      -- and back again
      have hback := decode_comp hlen hl' σ.symm (contextOf_comp (h.comp σ) _ σ.symm) hheader has
      have hfields : (fields ∘ σ) ∘ σ.symm = fields := (Equiv.comp_symm_eq σ _ _).2 rfl
      rw [hfields] at hback
      exact ⟨_, hback⟩
  permuted m hm := by
    obtain ⟨hheader, as, hattr, has⟩ := (decode_ofFn_eq_ok_iff hlen hl).1 hm
    have hcomp := decode_comp hlen hl σ (contextOf_comp h _ σ) hheader has
    refine ⟨as, hattr, hcomp, fun i j hi hj => ?_⟩
    have hj' := has j
    rw [RouteAttribute.parseWithParam_encap (carries_nlaOf (hl j)) hj,
      encapType_contextOf h hi (hl i) (has i)] at hj'
    obtain ⟨encaps, hencaps, heq⟩ := (Outcome.map_eq_ok _).1 hj'
    exact ⟨encaps, heq.symm, hencaps⟩

end RouteMessage

end

/-! ## On a little-endian host -/

namespace RouteMessage

attribute [local instance] Reference.little

/-- A label to push, in front of the type that says that it is one. -/
def labelThenType : Fin 2 → UInt16 × Bytes :=
  ![(RTA_ENCAP, [8, 0, 1, 0, 0, 1, 1, 64]), (RTA_ENCAP_TYPE, [1, 0])]

/-- It is read as a label from both places. -/
theorem label_orderFree :
    decode (zeros 12 ++ encodeNlas (List.ofFn labelThenType)) = .ok ⟨.default_,
      [.encap [.mpls (.destination [⟨16, 0, true, 64⟩])], .encapType .mpls]⟩ ∧
    OneType labelThenType ∧ OrderFree (zeros 12) labelThenType (Equiv.swap 0 1) := by
  have hone : OneType labelThenType := by
    unfold OneType
    decide
  exact ⟨rfl, hone, orderFree rfl (by decide) hone (Equiv.swap 0 1)⟩

end RouteMessage

end NetlinkRoute
