import NetlinkRoute.Route.Message
/-!
# Route — when the decoder panics

Three arms of the attribute parser can panic. `RTA_FLOW` is indexed
without a look at its length; the next hops of `RTA_MULTIPATH` carry a
length field that is subtracted from, and added to for an error text,
without a look at its value; and the segment routing header of a local
action does its arithmetic in `u8`. `RouteAttribute.Defect` is the wire
form of these, at any nesting, where the decoder gets to them, and the
decoder panics on nothing else (`RouteMessage.decode_ne_panic_iff`).
-/

namespace NetlinkRoute

open PacketUtils Emitter

section

variable [PacketUtils]

/-! ## Next hops -/

namespace RouteNextHop

variable {f : NlaBuffer → Outcome RouteAttribute} {payload hop : Bytes}

/-- The next hop that the loop of `RTA_MULTIPATH` gets to. -/
inductive HopReached (f : NlaBuffer → Outcome RouteAttribute) : Bytes → Bytes → Prop
  /-- The first one. -/
  | first (payload : Bytes) : HopReached f payload payload
  /-- One behind a next hop that was parsed and does not end the payload. -/
  | later {payload hop : Bytes} {nh : RouteNextHop} (hnh : parse f payload = .ok nh)
      (hne : payload.length ≠ rtnhLen payload)
      (h : HopReached f (payload.drop (rtnhLen payload)) hop) : HopReached f payload hop

/-- A length field that the code cannot do its arithmetic with: less than
the fixed part, or past the payload and too large for a sum in `u16`. -/
def BadLength (hop : Bytes) : Prop :=
  8 ≤ hop.length ∧ (rtnhLen hop < 8 ∨ hop.length < rtnhLen hop ∧ 65527 < rtnhLen hop)

/-- A next hop with its length in order panics when an attribute of it
does. -/
theorem parse_eq_panic_iff (h8 : 8 ≤ rtnhLen hop) (hle : rtnhLen hop ≤ hop.length) :
    parse f hop = .panic ↔ ∃ nb, NlaReached f (attributeBytes hop) nb ∧ f nb = .panic := by
  obtain ⟨flags, hops, index, hparse⟩ := parse_of_le (f := f) h8 hle
  rw [hparse, Outcome.bind_eq_panic, Outcome.context_eq_panic, forEach_bind_eq_panic_iff]
  simp

/-- A hop that is accepted has a length between its header and the payload. -/
theorem exists_ok_of_parse {nh : RouteNextHop} (h : parse f payload = .ok nh) :
    8 ≤ rtnhLen payload ∧ rtnhLen payload ≤ payload.length := by
  rcases parse_cases f payload with ⟨e, he⟩ | hp | ⟨-, -, -, hp⟩ | ⟨-, h8, hle⟩
  · simp [parse, he] at h
  · simp [parse, hp] at h
  · rw [hp] at h
    cases h
  · exact ⟨h8, hle⟩

/-- One turn of the loop. -/
theorem parseLoop_succ_eq_panic_iff {fuel : ℕ} :
    parseLoop f (fuel + 1) payload = .panic ↔ BadLength payload ∨
      (8 ≤ rtnhLen payload ∧ rtnhLen payload ≤ payload.length ∧
        ∃ nb, NlaReached f (attributeBytes payload) nb ∧ f nb = .panic) ∨
      (∃ nh, parse f payload = .ok nh) ∧ payload.length ≠ rtnhLen payload ∧
        parseLoop f fuel (payload.drop (rtnhLen payload)) = .panic := by
  -- the error comes from the checked constructor, so nothing else is looked at
  have hskip : (∃ e, newChecked payload = .err e) → ¬ BadLength payload →
      ¬ (8 ≤ rtnhLen payload ∧ rtnhLen payload ≤ payload.length) →
      (parseLoop f (fuel + 1) payload = .panic ↔ BadLength payload ∨
        (8 ≤ rtnhLen payload ∧ rtnhLen payload ≤ payload.length ∧
          ∃ nb, NlaReached f (attributeBytes payload) nb ∧ f nb = .panic) ∨
        (∃ nh, parse f payload = .ok nh) ∧ payload.length ≠ rtnhLen payload ∧
          parseLoop f fuel (payload.drop (rtnhLen payload)) = .panic) := by
    rintro ⟨e, he⟩ hbad hlen
    refine iff_of_false (by simp [parseLoop, he]) ?_
    rintro (h | ⟨h8, hle, -⟩ | ⟨⟨nh, hnh⟩, -⟩)
    · exact hbad h
    · exact hlen ⟨h8, hle⟩
    · exact hlen (exists_ok_of_parse hnh)
  rcases Nat.lt_or_ge payload.length 8 with h8 | h8
  · exact hskip (newChecked_short h8) (by unfold BadLength; omega) (by omega)
  rcases newChecked_cases h8 with ⟨hle, hc⟩ | ⟨hlt, hsmall, he⟩ | ⟨hlt, hbig, hp⟩
  · rcases Nat.lt_or_ge (rtnhLen payload) 8 with hshort | hge
    · refine iff_of_true ?_ (.inl ⟨h8, .inl hshort⟩)
      have hpanic : parse f payload = .panic := by
        simp [parse, hc, attributesOf_panic hshort h8]
      simp [parseLoop, hc, getU16_rtnhLen (show 2 ≤ payload.length by omega), hpanic]
    · have hbad : ¬ BadLength payload := by
        unfold BadLength
        omega
      -- the payload is split as the length says, and the rest is the next turn's
      have hlen : (ne.toU16 (payload.take 2)).toNat = rtnhLen payload := rfl
      simp only [parseLoop, hc, Outcome.context_ok, Outcome.ok_bind,
        getU16_rtnhLen (show 2 ≤ payload.length by omega), hlen, sliceFrom_ok hle, hbad, false_or,
        hge, hle, true_and, Outcome.bind_eq_panic, Outcome.context_eq_panic, Outcome.context_eq_ok]
      rw [← parse_eq_panic_iff hge hle]
      refine or_congr_right ?_
      constructor
      · rintro ⟨nh, hnh, h⟩
        split at h
        · cases h
        · next hne =>
          rcases (Outcome.bind_eq_panic _ _).1 h with h | ⟨_, -, h⟩
          · exact ⟨⟨nh, hnh⟩, hne, h⟩
          · cases h
      · rintro ⟨⟨nh, hnh⟩, hne, h⟩
        refine ⟨nh, hnh, ?_⟩
        rw [if_neg hne, h]
        rfl
  · exact hskip he (by unfold BadLength; omega) (by omega)
  · exact iff_of_true (by simp [parseLoop, hp]) (.inl ⟨h8, .inr ⟨hlt, hbig⟩⟩)

/-- **The loop panics when it gets to a next hop with a bad length**, or
to one with an attribute that panics. -/
theorem parseLoop_eq_panic_iff {fuel : ℕ} (hfuel : payload.length < fuel) :
    parseLoop f fuel payload = .panic ↔ ∃ hop, HopReached f payload hop ∧ (BadLength hop ∨
      (8 ≤ rtnhLen hop ∧ rtnhLen hop ≤ hop.length ∧
        ∃ nb, NlaReached f (attributeBytes hop) nb ∧ f nb = .panic)) := by
  induction fuel generalizing payload with
  | zero => omega
  | succ fuel ih =>
    rw [parseLoop_succ_eq_panic_iff]
    -- the rest of the payload is shorter once a next hop was parsed
    have hrest : ∀ nh, parse f payload = .ok nh →
        (payload.drop (rtnhLen payload)).length < fuel := by
      intro nh hnh
      have := exists_ok_of_parse hnh
      rw [List.length_drop]
      omega
    constructor
    · rintro (h | h | ⟨⟨nh, hnh⟩, hne, h⟩)
      · exact ⟨payload, .first payload, .inl h⟩
      · exact ⟨payload, .first payload, .inr h⟩
      · obtain ⟨hop, hr, h⟩ := (ih (hrest nh hnh)).1 h
        exact ⟨hop, .later hnh hne hr, h⟩
    · rintro ⟨hop, hr, h⟩
      cases hr with
      | first =>
        rcases h with h | h
        · exact .inl h
        · exact .inr (.inl h)
      | later hnh hne hr =>
        exact .inr (.inr ⟨⟨_, hnh⟩, hne, (ih (hrest _ hnh)).2 ⟨hop, hr, h⟩⟩)

/-- A hop the loop reaches lies in the payload. -/
theorem HopReached.length_le (h : HopReached f payload hop) : hop.length ≤ payload.length := by
  induction h with
  | first => exact Nat.le_refl _
  | later _ _ _ ih =>
    rw [List.length_drop] at ih
    omega

end RouteNextHop

/-! ## Attributes -/

namespace RouteAttribute

variable {ctx : RouteContext} {nb : NlaBuffer}

/-- **What is wrong with an attribute that the decoder panics on.** -/
inductive Defect (ctx : RouteContext) : NlaBuffer → Prop
  /-- A realm of less than four bytes. -/
  | flow {nb : NlaBuffer} (hk : wireKind nb = RTA_FLOW) (h : (nlaValue nb.buffer).length < 4) :
      Defect ctx nb
  /-- An encapsulation with a bad segment routing header. -/
  | encap {nb nb' : NlaBuffer} (hk : wireKind nb = RTA_ENCAP)
      (hr : NlaReached (RouteLwTunnelEncap.parseWithParam ctx.encapType) (nlaValue nb.buffer) nb')
      (h : RouteLwTunnelEncap.Crashes ctx.encapType nb') : Defect ctx nb
  /-- A next hop with a bad length. -/
  | nextHop {nb : NlaBuffer} {hop : Bytes} (hk : wireKind nb = RTA_MULTIPATH)
      (hr : RouteNextHop.HopReached (parseWithParam ctx) (nlaValue nb.buffer) hop)
      (h : RouteNextHop.BadLength hop) : Defect ctx nb
  /-- A next hop with a defective attribute. -/
  | inside {nb nb' : NlaBuffer} {hop : Bytes} (hk : wireKind nb = RTA_MULTIPATH)
      (hr : RouteNextHop.HopReached (parseWithParam ctx) (nlaValue nb.buffer) hop)
      (h8 : 8 ≤ RouteNextHop.rtnhLen hop) (hle : RouteNextHop.rtnhLen hop ≤ hop.length)
      (hr' : NlaReached (parseWithParam ctx) (RouteNextHop.attributeBytes hop) nb')
      (h : Defect ctx nb') : Defect ctx nb

/-- The three arms that can panic. -/
theorem parseWithParam_eq_panic_iff_arms (hv : NlaValid nb.buffer) :
    parseWithParam ctx nb = .panic ↔
      (wireKind nb = RTA_ENCAP ∧ ∃ nb', NlaReached
        (RouteLwTunnelEncap.parseWithParam ctx.encapType) (nlaValue nb.buffer) nb' ∧
          RouteLwTunnelEncap.Crashes ctx.encapType nb') ∨
      (wireKind nb = RTA_FLOW ∧ (nlaValue nb.buffer).length < 4) ∨
      (wireKind nb = RTA_MULTIPATH ∧ RouteNextHop.parseLoop (parseWithParam ctx)
        ((nlaValue nb.buffer).length + 1) (nlaValue nb.buffer) = .panic) := by
  have hencap : RouteLwTunnelEncap.parseVec ctx.encapType nb = .panic ↔ ∃ nb', NlaReached
      (RouteLwTunnelEncap.parseWithParam ctx.encapType) (nlaValue nb.buffer) nb' ∧
        RouteLwTunnelEncap.Crashes ctx.encapType nb' := by
    rw [RouteLwTunnelEncap.parseVec, hv.carries.value, Outcome.ok_bind, parseNlas_eq_panic_iff]
    refine exists_congr fun nb' => and_congr_right fun hr => ?_
    exact RouteLwTunnelEncap.parseWithParam_eq_panic_iff (valid_of_mem_nlas hr.mem)
  have hmetrics : RouteMetric.parseVec (nlaValue nb.buffer) ≠ .panic :=
    parseNlas_ne_panic fun nb' hnb' => RouteMetric.parse_ne_panic (valid_of_mem_nlas hnb')
  have hexpires : parseExpires ctx.routeType (nlaValue nb.buffer) ≠ .panic := by
    unfold parseExpires
    split <;> simp
  have hnodup : kinds.Nodup := by decide
  rw [parseWithParam_of_carries hv.carries, select_eq_panic_iff (by exact hnodup)
    (by simp [hv.carries.defaultNla])]
  -- every other arm returns, whatever the payload
  simp [arms, hencap, hmetrics, hexpires, RouteRealm.parse_eq_panic_iff]

/-- **The parser panics on the defective attributes and on no other.** -/
theorem parseWithParam_eq_panic_iff (hv : NlaValid nb.buffer) :
    parseWithParam ctx nb = .panic ↔ Defect ctx nb := by
  -- attributes inside a next hop come from shorter buffers
  induction hn : nb.buffer.length using Nat.strongRecOn generalizing nb with
  | _ n ih =>
    subst hn
    have hlen := hv.length_value
    have hle := hv.2
    have hshort : ∀ {hop : Bytes} {nb' : NlaBuffer},
        RouteNextHop.HopReached (parseWithParam ctx) (nlaValue nb.buffer) hop →
        RouteNextHop.rtnhLen hop ≤ hop.length →
        NlaReached (parseWithParam ctx) (RouteNextHop.attributeBytes hop) nb' →
        (parseWithParam ctx nb' = .panic ↔ Defect ctx nb') := by
      intro hop nb' hr hhop hr'
      have h1 := hr.length_le
      have h2 := RouteNextHop.length_attributeBytes hhop
      have h3 := length_le_of_mem_nlas hr'.mem
      exact ih _ (by omega) (valid_of_mem_nlas hr'.mem) rfl
    rw [parseWithParam_eq_panic_iff_arms hv,
      RouteNextHop.parseLoop_eq_panic_iff (Nat.lt_succ_self _)]
    constructor
    · rintro (⟨hk, nb', hr, h⟩ | ⟨hk, h⟩ | ⟨hk, hop, hr, h | ⟨h8, hhop, nb', hr', h⟩⟩)
      · exact .encap hk hr h
      · exact .flow hk h
      · exact .nextHop hk hr h
      · exact .inside hk hr h8 hhop hr' ((hshort hr hhop hr').1 h)
    · intro h
      cases h with
      | encap hk hr h => exact .inl ⟨hk, _, hr, h⟩
      | flow hk h => exact .inr (.inl ⟨hk, h⟩)
      | nextHop hk hr h => exact .inr (.inr ⟨hk, _, hr, .inl h⟩)
      | inside hk hr h8 hhop hr' h =>
        exact .inr (.inr ⟨hk, _, hr, .inr ⟨h8, hhop, _, hr', (hshort hr hhop hr').2 h⟩⟩)

end RouteAttribute

/-! ## Messages -/

namespace RouteMessage

variable {b : Bytes}

/-- The context that a message's bytes select. -/
def wireContext (b : Bytes) : RouteContext where
  addressFamily := AddressFamily.codec.ofNum (b.getD 0 0)
  routeType := RouteType.codec.ofNum (b.getD 7 0)
  encapType := encapTypeOfNum (firstEncapType (b.drop RouteHeader.bufferLen))

/-- The header that is read decides the context. -/
theorem parseHeader_eq (h : RouteHeader.bufferLen ≤ b.length) : ∃ header,
    RouteHeader.parse b = .ok header ∧ header.addressFamily = (wireContext b).addressFamily ∧
      header.kind = (wireContext b).routeType := by
  have h : 12 ≤ b.length := h
  simp (disch := omega) only [RouteHeader.parse, getU8_of_lt, getU32_of_le, Outcome.ok_bind,
    Outcome.pure_eq]
  refine ⟨_, rfl, ?_, ?_⟩
  · simp [wireContext, show 0 < b.length by omega]
  · simp [wireContext, show 7 < b.length by omega]

/-- **Decoding returns, with a message or an error, exactly when it gets
to no defective attribute.** -/
theorem decode_ne_panic_iff : decode b ≠ .panic ↔
    ∀ nb, NlaReached (RouteAttribute.parseWithParam (wireContext b))
      (b.drop RouteHeader.bufferLen) nb → ¬ RouteAttribute.Defect (wireContext b) nb := by
  rcases Nat.lt_or_ge b.length RouteHeader.bufferLen with hlt | hge
  · obtain ⟨e, he⟩ := checkedBuffer_of_lt (s := "RouteMessageBuffer") hlt
    refine iff_of_true (by simp [decode, he]) fun nb hr => ?_
    rw [List.drop_eq_nil_of_le (by omega)] at hr
    have := hr.mem
    simp [nlas_nil] at this
  obtain ⟨header, hh, hf, hk⟩ := parseHeader_eq hge
  have hctx : (⟨header.addressFamily, header.kind,
      encapTypeOfNum (firstEncapType (b.drop RouteHeader.bufferLen))⟩ : RouteContext) =
      wireContext b := by
    rw [hf, hk]
    rfl
  have hpanic : decode b = .panic ↔ ∃ nb, NlaReached (RouteAttribute.parseWithParam (wireContext b))
      (b.drop RouteHeader.bufferLen) nb ∧ RouteAttribute.Defect (wireContext b) nb := by
    rw [decode, checkedBuffer_of_le hge, Outcome.ok_bind, parse, hh, Outcome.context_ok,
      Outcome.ok_bind, Outcome.bind_eq_panic, Outcome.context_eq_panic, parseAttributes,
      sliceFrom_ok hge, Outcome.ok_bind, findEncapType_nlas, Outcome.ok_bind, hctx,
      forEach_bind_eq_panic_iff]
    simp only [reduceCtorEq, and_false, exists_false, or_false]
    refine exists_congr fun nb => and_congr_right fun hr => ?_
    exact RouteAttribute.parseWithParam_eq_panic_iff (valid_of_mem_nlas hr.mem)
  rw [Ne, hpanic, not_exists]
  exact forall_congr' fun nb => not_and

end RouteMessage


end

/-! ## On a little-endian host -/

namespace RouteMessage

section Panics

attribute [local instance] Reference.little

/-- An IPv4 header with `RTA_FLOW` of two bytes, and with a next hop that
claims to be four bytes long. -/
theorem decode_flow_panics :
    decode ((2 :: zeros 11) ++ [6, 0, 11, 0, 1, 2, 0, 0]) = .panic ∧
      decode ((2 :: zeros 11) ++ [12, 0, 9, 0, 4, 0, 0, 0, 0, 0, 0, 0]) = .panic :=
  ⟨rfl, rfl⟩

end Panics

end RouteMessage

end NetlinkRoute
