import NetlinkRoute.Route.Encap
import NetlinkRoute.Route.Recursion
/-!
# Route — messages that survive the wire

`RouteMessage.WellFormed` says which messages come back from the bytes
they are written to: enumerations hold the value their number decodes to,
addresses are those of the header's family, encapsulations those of the
message's encapsulation type, and so on through the next hops. They do
(`decode_emitted`), and whatever the decoder accepts is such a message
as long as no local segment routing action is in it
(`wellFormed_of_decode`), so decoding is stable under re-encoding.
-/

namespace NetlinkRoute

open PacketUtils Emitter

/-! ## Values of single attributes -/

namespace RouteAddress

variable {family : AddressFamily} {a : RouteAddress} {payload : Bytes}

/-- The address is of the variant that the family selects. -/
def WellFormed (family : AddressFamily) : RouteAddress → Prop
  | .inet _ => family = .inet
  | .inet6 _ => family = .inet6
  | .mpls label => family = .mpls ∧ label.InRange
  | .other _ => family ≠ .inet ∧ family ≠ .inet6 ∧ family ≠ .mpls

/-- The bytes of an address. -/
def bytes : RouteAddress → Bytes
  | .inet v => v.val
  | .inet6 v => v.val
  | .mpls label => be.u32 label.toU32
  | .other v => v

/-- An address is written as its octets. -/
theorem writes_emit : Writes a.emit a.bufferLen a.bytes := by
  cases a with
  | inet v => exact writes_copy v.property
  | inet6 v => exact writes_copy v.property
  | mpls label => exact writes_copy (length_u32 _ _)
  | other v => exact writes_copy rfl

/-- An address of the family comes back under the family. -/
theorem parse_bytes (h : a.WellFormed family) : parse family a.bytes = .ok a := by
  cases a with
  | inet v =>
    obtain rfl : family = .inet := h
    simp [parse, bytes]
  | inet6 v =>
    obtain rfl : family = .inet6 := h
    simp [parse, bytes]
  | mpls label =>
    obtain ⟨rfl, hr⟩ := h
    simp [parse, bytes, hr]
  | other v =>
    obtain ⟨h4, h6, hm⟩ := h
    unfold parse
    split <;> first | contradiction | rfl

/-- The address read is one of the family. -/
theorem holds_parse : (parse family payload).Holds (WellFormed family) := by
  unfold parse
  split
  · simp [WellFormed]
  · simp [WellFormed]
  · simp [WellFormed]
  · next h4 h6 hm => exact (Outcome.holds_ok _).2 ⟨h4, h6, hm⟩

@[simp] theorem parse_ne_panic : parse family payload ≠ .panic := by
  unfold parse
  split <;> simp

end RouteAddress

namespace RouteVia

variable [PacketUtils] {v : RouteVia} {buf : Bytes}

/-- Another family than the three that have a variant. -/
def WellFormed : RouteVia → Prop
  | .other (family, _) => AddressFamily.codec.Canonical family ∧
      family ≠ .inet ∧ family ≠ .inet6 ∧ family ≠ .packet
  | _ => True

/-- The bytes of a gateway. -/
def bytes (v : RouteVia) : Bytes :=
  ne.u16 (AddressFamily.codec.toNum v.familyAndAddress.1).toUInt16 ++ v.familyAndAddress.2

/-- A gateway of another family is written with the family in front. -/
theorem writes_emit : Writes v.emit v.bufferLen v.bytes := by
  have hw : Writes (copy v.familyAndAddress.2) v.familyAndAddress.2.length v.familyAndAddress.2 :=
    writes_copy rfl
  have h := (covers_put (ne.u16 (AddressFamily.codec.toNum v.familyAndAddress.1).toUInt16))
    |>.andThen_onTail hw (n := v.bufferLen) (by
      rw [length_u16]
      cases v with
      | inet ip => rw [bufferLen, familyAndAddress, ip.property]
      | inet6 ip => rw [bufferLen, familyAndAddress, ip.property]
      | packet a => rw [bufferLen, familyAndAddress, Nat.add_comm]
      | other p => rw [bufferLen, familyAndAddress, Nat.add_comm])
  rwa [length_u16] at h

/-- A well-formed one comes back. -/
theorem parse_bytes (h : v.WellFormed) : parse v.bytes = .ok v := by
  have hget : getU16 v.bytes 0 =
      .ok (AddressFamily.codec.toNum v.familyAndAddress.1).toUInt16 := getU16_u16_append
  have haddr : sliceFrom v.bytes RTVIA_LEN = .ok v.familyAndAddress.2 := by
    rw [sliceFrom_ok (by simp [bytes]), bytes, List.drop_left' (length_u16 _ _)]
  have hfam : AddressFamily.codec.ofNum (AddressFamily.codec.toNum v.familyAndAddress.1) =
      v.familyAndAddress.1 := by
    cases v with
    | other p => exact h.1
    | _ => rfl
  rw [parse, hget, Outcome.ok_bind, haddr, Outcome.ok_bind, UInt8.toUInt8_toUInt16, hfam]
  cases v with
  | inet ip => simp [familyAndAddress]
  | inet6 ip => simp [familyAndAddress]
  | packet a => rfl
  | other p =>
    obtain ⟨-, h4, h6, hp⟩ := h
    simp only [familyAndAddress]

@[simp] theorem parseChecked_bytes (h : v.WellFormed) : parseChecked v.bytes = .ok v := by
  rw [parseChecked, checkedBuffer_of_le (by simp [bytes]), Outcome.context_ok, Outcome.ok_bind,
    parse_bytes h, Outcome.context_ok]

/-- The parser gives well-formed ones only. -/
@[simp] theorem holds_parseChecked : (parseChecked buf).Holds WellFormed := by
  simp only [parseChecked, Outcome.holds_bind, Outcome.holds_context]
  intro via hvia
  obtain ⟨h, rfl⟩ := checkedBuffer_eq_ok_iff.1 hvia
  rw [parse, getU16_of_le h, Outcome.ok_bind, sliceFrom_ok h, Outcome.ok_bind]
  split
  · simp [WellFormed]
  · simp [WellFormed]
  · simp [WellFormed]
  · next h4 h6 hp =>
    exact (Outcome.holds_ok _).2 ⟨EnumCodec.canonical_ofNum _ _, h4, h6, hp⟩

@[simp] theorem parseChecked_ne_panic : parseChecked buf ≠ .panic := by
  intro hp
  rcases (Outcome.bind_eq_panic _ _).1 hp with hp | ⟨via, hvia, hp⟩
  · simp at hp
  · obtain ⟨h, rfl⟩ := checkedBuffer_eq_ok_iff.1 ((Outcome.context_eq_ok _ _ _).1 hvia)
    rw [Outcome.context_eq_panic, parse, getU16_of_le h, Outcome.ok_bind, sliceFrom_ok h,
      Outcome.ok_bind] at hp
    revert hp
    split <;> simp

end RouteVia

namespace RouteRealm

variable [Host] {v : RouteRealm} {buf : Bytes}

/-- The word of a realm. -/
def word (v : RouteRealm) : UInt32 := v.source.toUInt32 <<< 16 ||| v.destination.toUInt32

omit [Host] in
/-- A realm is two halves of a word. -/
theorem toNat_word : v.word.toNat = v.source.toNat * 65536 + v.destination.toNat := by
  have hs := v.source.toNat_lt
  have hd : v.destination.toNat < 2 ^ 16 := v.destination.toNat_lt
  have h1 : (v.source.toUInt32 <<< 16).toNat = 2 ^ 16 * v.source.toNat := by
    rw [UInt32.toNat_shiftLeft, show (16 : UInt32).toNat % 32 = 16 from rfl, Nat.shiftLeft_eq,
      UInt16.toNat_toUInt32]
    omega
  rw [word, UInt32.toNat_or, h1, UInt16.toNat_toUInt32, ← Nat.two_pow_add_eq_or_of_lt hd]
  omega

theorem writes_emit : Writes v.emit RULE_REALM_LEN (ne.u32 v.word) := writes_copy (length_u32 _ _)

/-- Both are read back from it. -/
theorem parse_u32 : parse (ne.u32 v.word) = .ok v := by
  have hs := v.source.toNat_lt
  have hd := v.destination.toNat_lt
  obtain ⟨b0, b1, b2, b3, hb⟩ := exists_of_length_eq_four (length_u32 ne v.word)
  have hw : ne.toU32 [b0, b1, b2, b3] = v.word := by rw [← hb, toU32_u32]
  have hp : parse [b0, b1, b2, b3] = .ok ⟨(ne.toU32 [b0, b1, b2, b3] >>> 16).toUInt16,
      (ne.toU32 [b0, b1, b2, b3] &&& 0xFFFF).toUInt16⟩ := rfl
  have hsrc : (v.word >>> 16).toUInt16 = v.source := by
    apply UInt16.toNat_inj.1
    rw [UInt32.toNat_toUInt16, UInt32.toNat_shiftRight, toNat_word,
      show (16 : UInt32).toNat % 32 = 16 from rfl, Nat.shiftRight_eq_div_pow]
    omega
  have hdst : (v.word &&& 0xFFFF).toUInt16 = v.destination := by
    apply UInt16.toNat_inj.1
    rw [UInt32.toNat_toUInt16, UInt32.toNat_and, toNat_word,
      show (0xFFFF : UInt32).toNat = 2 ^ 16 - 1 from rfl, Nat.and_two_pow_sub_one_eq_mod]
    omega
  rw [hb, hp, hw, hsrc, hdst]

/-- Four bytes are read whatever the length is. -/
theorem parse_eq_panic_iff : parse buf = .panic ↔ buf.length < 4 := by
  constructor
  · intro h
    by_contra hlt
    rw [parse, index_of_lt (by omega), index_of_lt (by omega), index_of_lt (by omega),
      index_of_lt (by omega)] at h
    simp only [Outcome.ok_bind] at h
    split at h <;> simp at h
  · intro h
    match buf, h with
    | [], _ => rfl
    | [_], _ => rfl
    | [_, _], _ => rfl
    | [_, _, _], _ => rfl

end RouteRealm

namespace RouteMetric

variable [PacketUtils] {a : RouteMetric} {nb : NlaBuffer} {payload : Bytes}

/-- The kinds its parser names. -/
def kinds : List UInt16 :=
  [RTAX_LOCK, RTAX_MTU, RTAX_WINDOW, RTAX_RTT, RTAX_RTTVAR, RTAX_SSTHRESH, RTAX_CWND, RTAX_ADVMSS,
    RTAX_REORDERING, RTAX_HOPLIMIT, RTAX_INITCWND, RTAX_FEATURES, RTAX_RTO_MIN, RTAX_INITRWND,
    RTAX_QUICKACK, RTAX_CC_ALGO, RTAX_FASTOPEN_NO_COOKIE]

/-- The values that come back from their own bytes. -/
def WellFormed : RouteMetric → Prop
  | .other n => n.Unknown kinds
  | _ => True

theorem uniform_emitValue (a : RouteMetric) : Uniform a.emitValue a.valueLen := by
  cases a <;> simp [emitValue, valueLen]

/-- A well-formed metric comes back. -/
theorem roundTrips (h : a.WellFormed) : RoundTrips parse a.nla a := by
  cases a with
  | other n =>
    refine (writes_copy rfl).roundTrips fun nb hc => ?_
    rw [parse, hc.bind, select_default (by exact h), hc.defaultNla]
    rfl
  | _ v =>
    refine (writes_put (length_u32 _ v)).roundTrips fun nb hc => ?_
    simp only [nla, kind] at hc
    rw [parse, hc.bind, select_of_find rfl]
    simp

/-- Its parser gives well-formed metrics only. -/
theorem holds_parse (hv : NlaValid nb.buffer) : (parse nb).Holds WellFormed := by
  rw [parse, hv.carries.bind]
  refine holds_select ?_ fun hk => ?_
  · simp [WellFormed]
  · rw [hv.carries.defaultNla]
    exact (Outcome.holds_ok _).2 hk

theorem parse_ne_panic (hv : NlaValid nb.buffer) : parse nb ≠ .panic := by
  rw [parse, hv.carries.bind]
  refine select_ne_panic ?_ ?_
  · simp
  · simp [hv.carries.defaultNla]

end RouteMetric

/-! ## Attributes -/

/-- The kinds the attribute parser names. -/
def RouteAttribute.kinds : List UInt16 :=
  [RTA_DST, RTA_SRC, RTA_GATEWAY, RTA_PREFSRC, RTA_VIA, RTA_NEWDST, RTA_PREF, RTA_ENCAP,
    RTA_EXPIRES, RTA_UID, RTA_TTL_PROPAGATE, RTA_ENCAP_TYPE, RTA_IIF, RTA_OIF, RTA_PRIORITY,
    RTA_FLOW, RTA_TABLE, RTA_MARK, RTA_CACHEINFO, RTA_MFC_STATS, RTA_METRICS, RTA_MULTIPATH]

variable {ctx : RouteContext}

/-- What the context and the wire format ask of an attribute, its next
hops' attributes apart. -/
def RouteAttribute.WellFormed (ctx : RouteContext) : RouteAttribute → Prop
  | .destination addr | .source addr | .gateway addr | .prefSource addr =>
    addr.WellFormed ctx.addressFamily
  | .via v => v.WellFormed
  | .newDestination labels => ∀ label ∈ labels, label.InRange
  | .preference v => RoutePreference.codec.Canonical v
  | .encapType v => RouteLwEnCapType.codec.Canonical v
  | .encap l => ∀ e ∈ l, e.WellFormed ctx.encapType
  | .expires _ => ctx.routeType ≠ .multicast
  | .multicastExpires _ => ctx.routeType = .multicast
  | .ttlPropagate v => RouteMplsTtlPropagation.codec.Canonical v
  | .metrics l => ∀ m ∈ l, m.WellFormed
  | .multiPath nhs => nhs ≠ []
  | .other n => n.Unknown RouteAttribute.kinds
  | _ => True

/-- The attribute is not a next hop object's id, which the parser has no
arm for. -/
def RouteAttribute.NotNhid (a : RouteAttribute) : Prop := ∀ v, a ≠ .nhid v

section

variable [PacketUtils]

/-! ## Next hops, written and read -/

namespace RouteNextHop

variable {f : NlaBuffer → Outcome RouteAttribute} {nh : RouteNextHop} {nhs : List RouteNextHop}

/-- These bytes, with anything after them, are read as this next hop. -/
structure ReadsAs (f : NlaBuffer → Outcome RouteAttribute) (nh : RouteNextHop) (out : Bytes) :
    Prop where
  le_length : 8 ≤ out.length
  rtnhLen_eq : ∀ rest, rtnhLen (out ++ rest) = out.length
  parse_eq : ∀ rest, parse f (out ++ rest) = .ok nh

/-- The bytes of a next hop are read as it, when those of its attributes
are. -/
theorem readsAs_of_attributes {out : Bytes} (hlen : nh.bufferLen ≤ 65535)
    (hout : out.length + 8 = nh.bufferLen)
    (hf : forEach (fun nla => do f (← nla)) (nlas out) = .ok nh.attributes) :
    ReadsAs f nh (layoutBytes nh.layout ++ out) := by
  have h8 := nh.length_layout
  have hlayout : layoutBytes nh.layout = ne.u16 (UInt16.ofNat nh.bufferLen) ++
      ([nh.flags] ++ ([nh.hops] ++ ne.u32 nh.interfaceIndex)) := by simp [layout]
  -- the length is written in sixteen bits, where it fits
  have hrt : ∀ rest, rtnhLen (layoutBytes nh.layout ++ out ++ rest) =
      (layoutBytes nh.layout ++ out).length := fun rest => by
    rw [rtnhLen, hlayout, List.append_assoc, List.append_assoc, List.take_left' (length_u16 _ _),
      toU16_u16, ← hlayout, List.length_append, h8, UInt16.toNat_ofNat']
    omega
  refine ⟨by rw [List.length_append]; omega, hrt, fun rest => ?_⟩
  have hlen' := hrt rest
  have hle : rtnhLen (layoutBytes nh.layout ++ out ++ rest) ≤
      (layoutBytes nh.layout ++ out ++ rest).length := by
    simp only [hlen', List.length_append]
    omega
  have hc := newChecked_of_le (by simp only [List.length_append]; omega) hle
  have hattr : attributeBytes (layoutBytes nh.layout ++ out ++ rest) = out := by
    rw [attributeBytes, hlen', List.take_left, List.drop_left' h8]
  have hof := @attributesOf_ok _ (layoutBytes nh.layout ++ out ++ rest)
    (by rw [hlen', List.length_append]; omega) hle
  have hg1 : getU8 (layoutBytes nh.layout ++ out ++ rest) 2 = .ok nh.flags := by
    rw [hlayout, List.append_assoc, List.append_assoc, getU8_append (by simp)]
    simp
  have hg2 : getU8 (layoutBytes nh.layout ++ out ++ rest) 3 = .ok nh.hops := by
    rw [hlayout, List.append_assoc, List.append_assoc, getU8_append (by simp)]
    simp
  have hg3 : getU32 (layoutBytes nh.layout ++ out ++ rest) 4 = .ok nh.interfaceIndex := by
    rw [hlayout, List.append_assoc, List.append_assoc, getU32_append (by simp)]
    simp
  simp only [parse, hc, hof, hattr, hf, hg1, hg2, hg3, Outcome.context_ok, Outcome.ok_bind,
    Outcome.pure_eq]
  cases nh
  rfl

/-- A parsed next hop's attributes come from shorter buffers. -/
theorem holds_parse_attributes {buf : Bytes} : (parse f buf).Holds fun nh =>
    ∀ a ∈ nh.attributes,
      ∃ nb, NlaValid nb.buffer ∧ nb.buffer.length < buf.length ∧ f nb = .ok a := by
  intro nh h
  rcases parse_cases f buf with ⟨e, he⟩ | hp | ⟨-, -, -, hp⟩ | ⟨-, h8, hle⟩
  · simp [parse, he] at h
  · simp [parse, hp] at h
  · rw [hp] at h
    cases h
  · obtain ⟨flags, hops, index, hparse⟩ := parse_of_le (f := f) h8 hle
    rw [hparse, Outcome.bind_eq_ok] at h
    obtain ⟨attributes, hattr, hnh⟩ := h
    cases hnh
    intro a ha
    rw [Outcome.context_eq_ok] at hattr
    obtain ⟨o, ho, hoa⟩ := exists_of_mem_forEach hattr ha
    obtain ⟨nb, rfl, hfa⟩ := (Outcome.bind_eq_ok _ _).1 hoa
    have hlt := length_le_of_mem_nlas ho
    have hlen := length_attributeBytes hle
    exact ⟨nb, valid_of_mem_nlas ho, by omega, hfa⟩

/-- One turn of the loop, when it comes back. -/
theorem parseLoop_eq_ok {fuel : ℕ} {buf : Bytes} (h : parseLoop f (fuel + 1) buf = .ok nhs) :
    8 ≤ rtnhLen buf ∧ rtnhLen buf ≤ buf.length ∧ ∃ nh rest, nhs = nh :: rest ∧
      parse f buf = .ok nh ∧ ((buf.length = rtnhLen buf ∧ rest = []) ∨
        (rtnhLen buf < buf.length ∧ parseLoop f fuel (buf.drop (rtnhLen buf)) = .ok rest)) := by
  simp only [parseLoop] at h
  -- the turns that fail or panic give no list
  rcases parse_cases f buf with ⟨e, he⟩ | hp | ⟨hc, h8, -, hp⟩ | ⟨hc, h8, hle⟩
  · simp [he] at h
  · simp [hp] at h
  · simp [hc, hp, getU16_rtnhLen (show 2 ≤ buf.length by omega)] at h
  · refine ⟨h8, hle, ?_⟩
    rw [hc, Outcome.context_ok, Outcome.ok_bind, getU16_rtnhLen (by omega), Outcome.ok_bind,
      Outcome.bind_eq_ok] at h
    obtain ⟨nh, hnh, h⟩ := h
    rw [Outcome.context_eq_ok] at hnh
    rw [show (ne.toU16 (buf.take 2)).toNat = rtnhLen buf from rfl] at h
    split at h
    · next heq =>
      cases h
      exact ⟨nh, [], rfl, hnh, .inl ⟨heq, rfl⟩⟩
    · next hne =>
      rw [sliceFrom_ok hle, Outcome.ok_bind, Outcome.bind_eq_ok] at h
      obtain ⟨rest, hrest, h⟩ := h
      cases h
      exact ⟨nh, rest, rfl, hnh, .inr ⟨by omega, hrest⟩⟩

/-- The loop gives at least one hop. -/
theorem holds_parseLoop_ne_nil {fuel : ℕ} {buf : Bytes} :
    (parseLoop f fuel buf).Holds fun nhs => nhs ≠ [] := by
  intro nhs h
  cases fuel with
  | zero => cases h
  | succ fuel =>
    obtain ⟨-, -, nh, rest, rfl, -⟩ := parseLoop_eq_ok h
    simp

/-- Each attribute of a hop was parsed from a shorter buffer. -/
theorem holds_parseLoop_attributes {fuel : ℕ} {buf : Bytes} :
    (parseLoop f fuel buf).Holds fun nhs => ∀ nh ∈ nhs, ∀ a ∈ nh.attributes,
      ∃ nb, NlaValid nb.buffer ∧ nb.buffer.length < buf.length ∧ f nb = .ok a := by
  intro nhs h
  induction fuel generalizing buf nhs with
  | zero => cases h
  | succ fuel ih =>
    obtain ⟨h8, -, nh, rest, rfl, hnh, hrest⟩ := parseLoop_eq_ok h
    intro n hn a ha
    rcases List.mem_cons.1 hn with rfl | hn
    · exact holds_parse_attributes _ hnh a ha
    · rcases hrest with ⟨-, rfl⟩ | ⟨hlt, hrest⟩
      · simp at hn
      · obtain ⟨nb, hv, hlt', hf⟩ := ih _ hrest n hn a ha
        rw [List.length_drop] at hlt'
        exact ⟨nb, hv, by omega, hf⟩

/-- The loop reads a list of next hops, one after another. -/
theorem parseLoop_flatMap {out : RouteNextHop → Bytes} {fuel : ℕ} (hne : nhs ≠ [])
    (hfuel : nhs.length ≤ fuel) (h : ∀ nh ∈ nhs, ReadsAs f nh (out nh)) :
    parseLoop f fuel (nhs.flatMap out) = .ok nhs := by
  induction nhs generalizing fuel with
  | nil => exact absurd rfl hne
  | cons nh nhs ih =>
    obtain ⟨fuel, rfl⟩ : ∃ k, fuel = k + 1 := ⟨fuel - 1, by rw [List.length_cons] at hfuel; omega⟩
    have hnh := h nh (by simp)
    have hrt := hnh.rtnhLen_eq (nhs.flatMap out)
    have h8 := hnh.le_length
    have hc := @newChecked_of_le _ (out nh ++ nhs.flatMap out)
      (by rw [List.length_append]; omega) (by rw [hrt, List.length_append]; omega)
    have hget := @getU16_rtnhLen _ (out nh ++ nhs.flatMap out) (by
      rw [List.length_append]
      omega)
    unfold rtnhLen at hrt
    rw [List.flatMap_cons, parseLoop]
    simp only [hc, hget, hnh.parse_eq, Outcome.context_ok, Outcome.ok_bind, hrt,
      List.length_append]
    cases nhs with
    | nil => simp
    | cons nh' nhs =>
      have h8' := (h nh' (by simp)).le_length
      rw [if_neg (by simp only [List.flatMap_cons, List.length_append]; omega),
        sliceFrom_ok (by rw [List.length_append]; omega), List.drop_left, Outcome.ok_bind,
        ih (by simp) (by simpa using hfuel) fun n hn => h n (by simp [hn])]
      rfl

end RouteNextHop

/-! ## Attributes, written and read -/

namespace RouteAttribute

variable {a : RouteAttribute} {nb : NlaBuffer}

/-- An attribute comes back through the arm of its kind. -/
theorem roundTrips_arm {v : Bytes} {k' : UInt16} {arm : NlaBuffer → Outcome RouteAttribute}
    (h : a.nla.Payload v) (k : UInt16) (hk : a.kind = k)
    (hfind : ∀ nb, (arms (parseWithParam ctx) ctx nb v).find?
      (fun c => decide (k &&& NLA_TYPE_MASK = c.1)) = some (k', arm nb))
    (harm : ∀ nb, Carries nb a.kind v → arm nb = .ok a) :
    RoundTrips (parseWithParam ctx) a.nla a := by
  subst hk
  refine ⟨v, h, fun nb hc => ?_⟩
  have hcarries : Carries nb a.kind v := hc
  rw [parseWithParam_of_carries hcarries, select_of_find (hfind nb)]
  exact harm nb hcarries

/-- A multipath attribute, once the attributes of its next hops are known
to come back. -/
theorem roundTrips_multiPath {nhs : List RouteNextHop} (hne : nhs ≠ [])
    (hlen : (RouteAttribute.multiPath nhs).valueLen ≤ 65531)
    (h : ∀ nh ∈ nhs, ∀ a ∈ nh.attributes, a.valueLen ≤ 65531 →
      RoundTrips (parseWithParam ctx) a.nla a) :
    RoundTrips (parseWithParam ctx) (RouteAttribute.multiPath nhs).nla (.multiPath nhs) := by
  rw [valueLen, RouteNextHop.bufferLenSum_eq] at hlen
  have hnh : ∀ nh ∈ nhs, ∃ out, Fills nh.emit nh.bufferLen out ∧
      RouteNextHop.ReadsAs (parseWithParam ctx) nh out := fun nh hmem => by
    have hle : nh.bufferLen ≤ _ := List.le_sum_of_mem (List.mem_map_of_mem hmem)
    have hbuf := nh.bufferLen_eq
    -- an attribute is shorter than its next hop, which is shorter than the whole
    have hsmall : ∀ a ∈ nh.attributes, a.nla.valueLen ≤ 65531 := fun a ha => by
      have := valueLen_add_le_of_mem (t := RouteAttribute.nla) ha
      omega
    obtain ⟨out, hout, hread⟩ := forEach_nlas_emitted
      (g := fun nla => do parseWithParam ctx (← nla))
      (fun a ha => h nh hmem a ha (hsmall a ha)) hsmall
    have hfill := nh.covers_layout.fills_andThen_onTail hout (n := nh.bufferLen)
      (by rw [nh.length_layout, hbuf])
    rw [nh.length_layout] at hfill
    refine ⟨_, by rw [nh.emit_eq]; exact hfill,
      RouteNextHop.readsAs_of_attributes (by omega) ?_ hread⟩
    rw [hout.length_eq, hbuf, Nat.add_comm]
  choose! out hfill hread using hnh
  have hpay : (RouteAttribute.multiPath nhs).nla.Payload (nhs.flatMap out) := by
    have := fills_inTurn_map hfill
    rw [← RouteNextHop.items_eq, ← RouteNextHop.bufferLenSum_eq] at this
    rwa [Nla.Payload, nla, emitValue, valueLen]
  -- the counter of the loop is the bytes, and a next hop takes at least eight of them
  have hcount : nhs.length ≤ (nhs.flatMap out).length := by
    clear hlen hpay hne h hfill
    induction nhs with
    | nil => simp
    | cons nh nhs ih =>
      have h8 := (hread nh (by simp)).le_length
      have := ih fun n hn => hread n (by simp [hn])
      simp only [List.length_cons, List.flatMap_cons, List.length_append]
      omega
  refine roundTrips_arm hpay RTA_MULTIPATH rfl (fun _ => rfl) fun nb hc => ?_
  rw [RouteNextHop.parseLoop_flatMap hne (by omega) hread]
  rfl

/-- **A well-formed attribute comes back from its own bytes**, next hops
and all. -/
theorem roundTrips (hw : a.Everywhere (WellFormed ctx)) (hn : a.Everywhere NotNhid)
    (hlen : a.valueLen ≤ 65531) : RoundTrips (parseWithParam ctx) a.nla a := by
  induction a using RouteAttribute.ind with
  | multi nhs ih =>
    obtain ⟨hne, hall⟩ := everywhere_multiPath_iff.1 hw
    obtain ⟨-, hnh⟩ := everywhere_multiPath_iff.1 hn
    exact roundTrips_multiPath hne hlen fun nh hmem a ha =>
      ih nh hmem a ha (hall nh hmem a ha) (hnh nh hmem a ha)
  | flat a hflat =>
    have h := hw.self
    cases a with
    | multiPath nhs => exact absurd rfl (hflat nhs)
    | nhid v => exact absurd rfl (hn.self v)
    | destination addr =>
      exact roundTrips_arm RouteAddress.writes_emit.fills RTA_DST rfl (fun _ => rfl)
        fun _ _ => by simp [RouteAddress.parse_bytes h]
    | source addr =>
      exact roundTrips_arm RouteAddress.writes_emit.fills RTA_SRC rfl (fun _ => rfl)
        fun _ _ => by simp [RouteAddress.parse_bytes h]
    | gateway addr =>
      exact roundTrips_arm RouteAddress.writes_emit.fills RTA_GATEWAY rfl (fun _ => rfl)
        fun _ _ => by simp [RouteAddress.parse_bytes h]
    | prefSource addr =>
      exact roundTrips_arm RouteAddress.writes_emit.fills RTA_PREFSRC rfl (fun _ => rfl)
        fun _ _ => by simp [RouteAddress.parse_bytes h]
    | via v =>
      exact roundTrips_arm RouteVia.writes_emit.fills RTA_VIA rfl (fun _ => rfl)
        fun _ _ => by simp [RouteVia.parseChecked_bytes h]
    | newDestination labels =>
      exact roundTrips_arm VecMplsLabel.writes_emit.fills RTA_NEWDST rfl (fun _ => rfl)
        fun _ _ => by simp [VecMplsLabel.parse_bytes h]
    | preference v =>
      exact roundTrips_arm (writes_put rfl).fills RTA_PREF rfl (fun _ => rfl)
        fun _ _ => by simp [EnumCodec.Canonical.ofNum_toNum h]
    | ttlPropagate v =>
      exact roundTrips_arm (writes_put rfl).fills RTA_TTL_PROPAGATE rfl (fun _ => rfl)
        fun _ _ => by simp [EnumCodec.Canonical.ofNum_toNum h]
    | encapType v =>
      exact roundTrips_arm (writes_copy (length_u16 _ _)).fills RTA_ENCAP_TYPE rfl (fun _ => rfl)
        fun _ _ => by simp [EnumCodec.Canonical.ofNum_toNum h]
    | encap l =>
      obtain ⟨out, hout, hread⟩ := exists_readsAs (r := id) (t := RouteLwTunnelEncap.nla)
        (fun e he hle => RouteLwTunnelEncap.roundTrips (h e he) hle) hlen
      exact roundTrips_arm hout RTA_ENCAP rfl (fun _ => rfl)
        fun _ hc => by simp [RouteLwTunnelEncap.parseVec, hc.value, hread.parseNlas_eq]
    | metrics l =>
      obtain ⟨out, hout, hread⟩ := exists_readsAs (r := id) (t := RouteMetric.nla)
        (fun m hm _ => RouteMetric.roundTrips (h m hm)) hlen
      exact roundTrips_arm hout RTA_METRICS rfl (fun _ => rfl)
        fun _ _ => by simp [RouteMetric.parseVec, hread.parseNlas_eq]
    | cacheInfo v =>
      exact roundTrips_arm RouteCacheInfo.codec.writes_emit.fills RTA_CACHEINFO rfl (fun _ => rfl)
        fun _ _ => by simp [parseChecked_bytes]
    | mfcStats v =>
      exact roundTrips_arm RouteMfcStats.codec.writes_emit.fills RTA_MFC_STATS rfl (fun _ => rfl)
        fun _ _ => by simp [parseChecked_bytes]
    | realm v =>
      exact roundTrips_arm RouteRealm.writes_emit.fills RTA_FLOW rfl (fun _ => rfl)
        fun _ _ => by simp [RouteRealm.parse_u32]
    | expires v =>
      have hne : ctx.routeType ≠ .multicast := h
      exact roundTrips_arm (writes_put (length_u32 _ v)).fills RTA_EXPIRES rfl (fun _ => rfl)
        fun _ _ => by simp [parseExpires, hne]
    | multicastExpires v =>
      have heq : ctx.routeType = .multicast := h
      exact roundTrips_arm (writes_put (length_u64 _ v)).fills RTA_EXPIRES rfl (fun _ => rfl)
        fun _ _ => by simp [parseExpires, heq]
    | uid v =>
      exact roundTrips_arm (writes_put (length_u32 _ v)).fills RTA_UID rfl (fun _ => rfl)
        fun _ _ => by simp
    | iif v =>
      exact roundTrips_arm (writes_put (length_u32 _ v)).fills RTA_IIF rfl (fun _ => rfl)
        fun _ _ => by simp
    | oif v =>
      exact roundTrips_arm (writes_put (length_u32 _ v)).fills RTA_OIF rfl (fun _ => rfl)
        fun _ _ => by simp
    | priority v =>
      exact roundTrips_arm (writes_put (length_u32 _ v)).fills RTA_PRIORITY rfl (fun _ => rfl)
        fun _ _ => by simp
    | table v =>
      exact roundTrips_arm (writes_put (length_u32 _ v)).fills RTA_TABLE rfl (fun _ => rfl)
        fun _ _ => by simp
    | mark v =>
      exact roundTrips_arm (writes_put (length_u32 _ v)).fills RTA_MARK rfl (fun _ => rfl)
        fun _ _ => by simp
    | other n =>
      refine (writes_copy rfl).roundTrips fun nb hc => ?_
      rw [parseWithParam_of_carries hc, select_default (by exact h), hc.defaultNla]
      rfl

/-! ## What is decoded -/

/-- A multipath attribute comes from the loop over its payload. -/
theorem parseLoop_of_multiPath {nhs : List RouteNextHop} (hv : NlaValid nb.buffer)
    (h : parseWithParam ctx nb = .ok (.multiPath nhs)) :
    RouteNextHop.parseLoop (parseWithParam ctx) ((nlaValue nb.buffer).length + 1)
      (nlaValue nb.buffer) = .ok nhs := by
  have hq : (parseWithParam ctx nb).Holds fun a => ∀ nhs, a = .multiPath nhs →
      RouteNextHop.parseLoop (parseWithParam ctx) ((nlaValue nb.buffer).length + 1)
        (nlaValue nb.buffer) = .ok nhs := by
    rw [parseWithParam_of_carries hv.carries]
    refine holds_select ?_ fun _ => ?_
    · have hloop : ∀ {o : Outcome (List RouteNextHop)}, o.Holds fun nhs => o = .ok nhs :=
        fun _ h => h
      simp only [arms, parseExpires]
      split <;> simp [hloop]
    · simp [hv.carries.defaultNla]
  exact hq _ h nhs rfl

/-- A parsed attribute has no id of a next hop object. -/
theorem holds_notNhid (hv : NlaValid nb.buffer) : (parseWithParam ctx nb).Holds NotNhid := by
  rw [parseWithParam_of_carries hv.carries]
  refine holds_select (P := fun a : RouteAttribute => ∀ v, a ≠ .nhid v) ?_ fun _ => ?_
  · simp only [arms, parseExpires]
    split <;> simp
  · simp [hv.carries.defaultNla]

/-- A parsed attribute is well formed, unless it can be a local segment
routing action. -/
theorem holds_wellFormed (hv : NlaValid nb.buffer) (hencap : ctx.encapType ≠ .seg6Local) :
    (parseWithParam ctx nb).Holds (WellFormed ctx) := by
  rw [parseWithParam_of_carries hv.carries]
  refine holds_select ?_ fun hk => ?_
  · have haddr := @RouteAddress.holds_parse ctx.addressFamily (nlaValue nb.buffer)
    have hencaps : (RouteLwTunnelEncap.parseVec ctx.encapType nb).Holds
        fun l => ∀ e ∈ l, e.WellFormed ctx.encapType := by
      rw [RouteLwTunnelEncap.parseVec, hv.carries.value, Outcome.ok_bind]
      exact holds_parseNlas fun nb' hnb' =>
        RouteLwTunnelEncap.holds_parseWithParam (valid_of_mem_nlas hnb') hencap
    have hmetrics : (RouteMetric.parseVec (nlaValue nb.buffer)).Holds
        fun l => ∀ m ∈ l, m.WellFormed :=
      holds_parseNlas fun nb' hnb' => RouteMetric.holds_parse (valid_of_mem_nlas hnb')
    have hexpires : (parseExpires ctx.routeType (nlaValue nb.buffer)).Holds (WellFormed ctx) := by
      unfold parseExpires
      split
      · next h => simp [WellFormed, h]
      · next h => simp [WellFormed, h]
    have hloop := @RouteNextHop.holds_parseLoop_ne_nil _ (parseWithParam ctx)
      ((nlaValue nb.buffer).length + 1) (nlaValue nb.buffer)
    simp [arms, WellFormed, haddr, hencaps, hmetrics, hexpires, hloop]
  · rw [hv.carries.defaultNla]
    exact (Outcome.holds_ok _).2 hk

/-- What holds of every parsed attribute holds of those inside it. -/
theorem holds_everywhere {P : RouteAttribute → Prop}
    (h : ∀ nb : NlaBuffer, NlaValid nb.buffer → (parseWithParam ctx nb).Holds P)
    (hv : NlaValid nb.buffer) : (parseWithParam ctx nb).Holds (Everywhere P) := by
  induction hn : nb.buffer.length using Nat.strongRecOn generalizing nb with
  | _ n ih =>
    subst hn
    intro a ha
    by_cases hmulti : ∃ nhs, a = .multiPath nhs
    · obtain ⟨nhs, rfl⟩ := hmulti
      refine everywhere_multiPath_iff.2 ⟨h nb hv _ ha, fun nh hnh a' ha' => ?_⟩
      have hloop := parseLoop_of_multiPath hv ha
      obtain ⟨nb', hv', hlt, hp⟩ := RouteNextHop.holds_parseLoop_attributes _ hloop nh hnh a' ha'
      have hlen := hv.length_value
      have hle := hv.2
      exact ih _ (by omega) hv' rfl a' hp
    · exact (everywhere_flat_iff fun nhs h => hmulti ⟨nhs, h⟩).2 (h nb hv a ha)

end RouteAttribute

end

end NetlinkRoute
