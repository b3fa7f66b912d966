import NetlinkRoute.Route.Model.Attribute
/-!
# Route — the recursion through next hops

Attributes hold next hops and next hops hold attributes, in the values
and in the parser. Here the recursion is tamed once: the emitters of a
list are those of its elements (`RouteAttribute.nlas_eq`,
`RouteNextHop.items_eq`), a property of attributes is proved by induction
on the nesting (`RouteAttribute.ind`), and the parser, which counts the
levels that are left, meets the equation it would have without counting
(`RouteAttribute.parseWithParam_eq`).
-/

namespace NetlinkRoute

open PacketUtils Emitter

/-! ## Values -/

/-- **Induction on the nesting.** A next hop's attributes come before the
attribute that holds it. -/
theorem RouteAttribute.ind {P : RouteAttribute → Prop}
    (multi : ∀ nhs : List RouteNextHop,
      (∀ nh ∈ nhs, ∀ a ∈ nh.attributes, P a) → P (.multiPath nhs))
    (flat : ∀ a : RouteAttribute, (∀ nhs, a ≠ .multiPath nhs) → P a) (a : RouteAttribute) :
    P a := by
  induction hn : sizeOf a using Nat.strongRecOn generalizing a with
  | _ n ih =>
    subst hn
    cases a with
    | multiPath nhs =>
      refine multi nhs fun nh hnh a ha => ih _ ?_ a rfl
      have h1 := List.sizeOf_lt_of_mem hnh
      have h2 := List.sizeOf_lt_of_mem ha
      obtain ⟨flags, hops, index, attributes⟩ := nh
      simp only [RouteAttribute.multiPath.sizeOf_spec, RouteNextHop.mk.sizeOf_spec] at *
      omega
    | _ => exact flat _ (by simp)

mutual

/-- `P` holds of the attribute and of all attributes inside it. -/
def RouteAttribute.Everywhere (P : RouteAttribute → Prop) : RouteAttribute → Prop
  | .multiPath nhs => P (.multiPath nhs) ∧ RouteNextHop.Everywhere P nhs
  | a => P a

/-- `P` holds of all attributes of these next hops and inside them. -/
def RouteNextHop.Everywhere (P : RouteAttribute → Prop) : List RouteNextHop → Prop
  | [] => True
  | ⟨_, _, _, attributes⟩ :: nhs =>
    RouteAttribute.EverywhereIn P attributes ∧ RouteNextHop.Everywhere P nhs

/-- `P` holds of all these attributes and inside them. -/
def RouteAttribute.EverywhereIn (P : RouteAttribute → Prop) : List RouteAttribute → Prop
  | [] => True
  | a :: as => a.Everywhere P ∧ RouteAttribute.EverywhereIn P as

end

section Everywhere

variable {P : RouteAttribute → Prop}

/-- The recursion over a list is a quantifier over its members. -/
theorem RouteAttribute.everywhereIn_iff {l : List RouteAttribute} :
    RouteAttribute.EverywhereIn P l ↔ ∀ a ∈ l, a.Everywhere P := by
  induction l with
  | nil => simp [RouteAttribute.EverywhereIn]
  | cons a l ih => simp [RouteAttribute.EverywhereIn, ih]

/-- Over hops it ranges over the attributes of each. -/
theorem RouteNextHop.everywhere_iff {nhs : List RouteNextHop} :
    RouteNextHop.Everywhere P nhs ↔ ∀ nh ∈ nhs, ∀ a ∈ nh.attributes, a.Everywhere P := by
  induction nhs with
  | nil => simp [RouteNextHop.Everywhere]
  | cons nh l ih =>
    obtain ⟨flags, hops, index, attributes⟩ := nh
    simp [RouteNextHop.Everywhere, RouteAttribute.everywhereIn_iff, ih]

/-- Of a list of hops, a condition holds of the list and inside every hop. -/
theorem RouteAttribute.everywhere_multiPath_iff {nhs : List RouteNextHop} :
    (RouteAttribute.multiPath nhs).Everywhere P ↔
      P (.multiPath nhs) ∧ ∀ nh ∈ nhs, ∀ a ∈ nh.attributes, a.Everywhere P := by
  rw [RouteAttribute.Everywhere, RouteNextHop.everywhere_iff]

/-- An attribute without hops is only itself. -/
theorem RouteAttribute.everywhere_flat_iff {a : RouteAttribute} (h : ∀ nhs, a ≠ .multiPath nhs) :
    a.Everywhere P ↔ P a := by
  cases a with
  | multiPath nhs => exact absurd rfl (h nhs)
  | _ => rfl

theorem RouteAttribute.Everywhere.self {a : RouteAttribute} (h : a.Everywhere P) : P a := by
  cases a with
  | multiPath nhs => exact (RouteAttribute.everywhere_multiPath_iff.1 h).1
  | _ => exact h

/-- A weaker condition holds where a stronger one does. -/
theorem RouteAttribute.Everywhere.mono {Q : RouteAttribute → Prop} {a : RouteAttribute}
    (h : a.Everywhere P) (hi : ∀ a, P a → Q a) : a.Everywhere Q := by
  induction a using RouteAttribute.ind with
  | multi nhs ih =>
    obtain ⟨hp, hall⟩ := RouteAttribute.everywhere_multiPath_iff.1 h
    exact RouteAttribute.everywhere_multiPath_iff.2
      ⟨hi _ hp, fun nh hnh a ha => ih nh hnh a ha (hall nh hnh a ha)⟩
  | flat a hflat =>
    rw [RouteAttribute.everywhere_flat_iff hflat] at h ⊢
    exact hi a h

end Everywhere

section

variable [PacketUtils]

/-- The recursion over the attributes of a hop is the ordinary map. -/
theorem RouteAttribute.nlas_eq (l : List RouteAttribute) :
    RouteAttribute.nlas l = l.map RouteAttribute.nla := by
  induction l with
  | nil => rfl
  | cons a l ih => rw [RouteAttribute.nlas, ih, List.map_cons, RouteAttribute.nla]

/-- Their lengths add up as those of any list of attributes. -/
theorem RouteAttribute.bufferLenSum_eq (l : List RouteAttribute) :
    RouteAttribute.bufferLenSum l = nlasLen (l.map RouteAttribute.nla) := by
  induction l with
  | nil => rfl
  | cons a l ih =>
    rw [RouteAttribute.bufferLenSum, ih, List.map_cons, nlasLen_cons]
    rfl

/-- Hops are emitted one behind the other. -/
theorem RouteNextHop.items_eq (l : List RouteNextHop) :
    RouteNextHop.items l = l.map fun nh => (nh.bufferLen, nh.emit) := by
  induction l with
  | nil => rfl
  | cons nh l ih => rw [RouteNextHop.items, ih, List.map_cons]

theorem RouteNextHop.bufferLenSum_eq (l : List RouteNextHop) :
    RouteNextHop.bufferLenSum l = (l.map RouteNextHop.bufferLen).sum := by
  induction l with
  | nil => rfl
  | cons nh l ih => rw [RouteNextHop.bufferLenSum, ih, List.map_cons, List.sum_cons]

/-- The places of a next hop's fixed part. -/
def RouteNextHop.layout (nh : RouteNextHop) : List (ℕ × Bytes) := [
  (0, ne.u16 (UInt16.ofNat nh.bufferLen)), (2, [nh.flags]), (3, [nh.hops]),
  (4, ne.u32 nh.interfaceIndex)]

/-- A hop is eight bytes and its attributes. -/
theorem RouteNextHop.bufferLen_eq (nh : RouteNextHop) :
    nh.bufferLen = PAYLOAD_OFFSET + nlasLen (nh.attributes.map RouteAttribute.nla) := by
  obtain ⟨flags, hops, index, attributes⟩ := nh
  rw [RouteNextHop.bufferLen, RouteAttribute.bufferLenSum_eq]

/-- It is written as its fields and then its attributes. -/
theorem RouteNextHop.emit_eq (nh : RouteNextHop) :
    nh.emit = (fields nh.layout).andThen
      (onTail PAYLOAD_OFFSET (emitNlas (nh.attributes.map RouteAttribute.nla))) := by
  obtain ⟨flags, hops, index, attributes⟩ := nh
  rw [RouteNextHop.emit, RouteAttribute.nlas_eq, RouteNextHop.layout, RouteNextHop.bufferLen]

theorem RouteNextHop.length_layout (nh : RouteNextHop) : (layoutBytes nh.layout).length = 8 := by
  simp [layout]

theorem RouteNextHop.covers_layout (nh : RouteNextHop) :
    Covers (fields nh.layout) (layoutBytes nh.layout) :=
  covers_fields (by simp [layout, Tiles])

/-! ## A next hop, seen by the parser -/

namespace RouteNextHop

variable {f g : NlaBuffer → Outcome RouteAttribute} {buf : Bytes} {fuel : ℕ}

/-- The length field of a next hop. -/
def rtnhLen (buf : Bytes) : ℕ := (ne.toU16 (buf.take 2)).toNat

/-- The bytes its attributes take. -/
def attributeBytes (buf : Bytes) : Bytes := (buf.take (rtnhLen buf)).drop PAYLOAD_OFFSET

/-- The length word of a hop is its first field. -/
theorem getU16_rtnhLen (h : 2 ≤ buf.length) : getU16 buf 0 = .ok (ne.toU16 (buf.take 2)) := by
  rw [getU16_of_le (by omega), List.drop_zero]

/-- The checked constructor, by the length field. -/
theorem newChecked_cases (h : 8 ≤ buf.length) :
    (rtnhLen buf ≤ buf.length ∧ newChecked buf = .ok buf) ∨
    (buf.length < rtnhLen buf ∧ rtnhLen buf ≤ 65527 ∧ ∃ e, newChecked buf = .err e) ∨
    (buf.length < rtnhLen buf ∧ 65527 < rtnhLen buf ∧ newChecked buf = .panic) := by
  have hlen : newChecked buf = if buf.length < rtnhLen buf then do
      let sum ← addU16 8 (ne.toU16 (buf.take 2))
      .fail ("invalid RouteNextHopBuffer: length " ++ toString buf.length ++ " < " ++
        toString sum) else .ok buf := by
    rw [newChecked, if_neg (Nat.not_lt.2 h), getU16_rtnhLen (by omega), Outcome.ok_bind]
    rfl
  rcases Nat.lt_or_ge buf.length (rtnhLen buf) with hlt | hge
  · rw [if_pos hlt] at hlen
    -- the message of the error adds eight to the length, in sixteen bits
    rcases Nat.lt_or_ge 65527 (rtnhLen buf) with hbig | hsmall
    · have hadd : addU16 8 (ne.toU16 (buf.take 2)) = .panic := if_neg (by
        rw [show (8 : UInt16).toNat = 8 from rfl]
        unfold rtnhLen at hbig
        omega)
      rw [hadd] at hlen
      exact .inr (.inr ⟨hlt, hbig, hlen⟩)
    · have hadd : addU16 8 (ne.toU16 (buf.take 2)) = .ok (8 + ne.toU16 (buf.take 2)) := if_pos (by
        rw [show (8 : UInt16).toNat = 8 from rfl]
        unfold rtnhLen at hsmall
        omega)
      rw [hadd] at hlen
      exact .inr (.inl ⟨hlt, hsmall, _, hlen⟩)
  · rw [if_neg (by omega)] at hlen
    exact .inl ⟨hge, hlen⟩

/-- A hop is checked against its own length. -/
theorem newChecked_of_le (h8 : 8 ≤ buf.length) (hle : rtnhLen buf ≤ buf.length) :
    newChecked buf = .ok buf := by
  rcases newChecked_cases h8 with h | h | h
  · exact h.2
  · omega
  · omega

/-- Fewer than eight bytes are refused. -/
theorem newChecked_short (h : buf.length < 8) : ∃ e, newChecked buf = .err e :=
  ⟨_, if_pos h⟩

/-- The attributes are read from the bytes that the length field leaves. -/
theorem attributesOf_ok (h8 : 8 ≤ rtnhLen buf) (hle : rtnhLen buf ≤ buf.length) :
    attributesOf buf = .ok (nlas (attributeBytes buf)) := by
  have hsub : subUsize (ne.toU16 (buf.take 2)).toNat PAYLOAD_OFFSET = .ok (rtnhLen buf - 8) :=
    if_pos h8
  have hslice : slice (buf.drop 8) 0 (rtnhLen buf - 8) =
      .ok ((buf.drop 8).take (rtnhLen buf - 8)) :=
    slice_ok (by omega) (by rw [List.length_drop]; omega)
  rw [attributesOf, sliceFrom_ok (Nat.le_trans h8 hle), Outcome.ok_bind,
    getU16_rtnhLen (by omega), Outcome.ok_bind, hsub, Outcome.ok_bind, hslice, Outcome.ok_bind,
    attributeBytes, List.drop_take]

/-- A length below the header slices backwards and panics. -/
theorem attributesOf_panic (h8 : rtnhLen buf < 8) (hle : 8 ≤ buf.length) :
    attributesOf buf = .panic := by
  have hsub : subUsize (ne.toU16 (buf.take 2)).toNat PAYLOAD_OFFSET = .panic :=
    if_neg (Nat.not_le.2 h8)
  rw [attributesOf, sliceFrom_ok hle, Outcome.ok_bind, getU16_rtnhLen (by omega),
    Outcome.ok_bind, hsub, Outcome.panic_bind]

/-- What stands in front of the attributes. -/
theorem getters_ok (h : 8 ≤ buf.length) : ∃ flags hops index, getU8 buf 2 = .ok flags ∧
    getU8 buf 3 = .ok hops ∧ getU32 buf 4 = .ok index :=
  ⟨_, _, _, getU8_of_lt (by omega), getU8_of_lt (by omega), getU32_of_le (by omega)⟩

/-- A next hop whose length field is in order, as its parser reads it. -/
theorem parse_of_le (h8 : 8 ≤ rtnhLen buf) (hle : rtnhLen buf ≤ buf.length) :
    ∃ flags hops index, parse f buf = (do
      let attributes ← (forEach (fun nla => do f (← nla)) (nlas (attributeBytes buf))).context
        "cannot parse route attributes in next-hop"
      .ok ⟨flags, hops, index, attributes⟩) := by
  obtain ⟨flags, hops, index, h1, h2, h3⟩ := @getters_ok _ buf (by omega)
  have hc := @newChecked_of_le _ buf (by omega) hle
  refine ⟨flags, hops, index, ?_⟩
  simp only [parse, hc, Outcome.context_ok, Outcome.ok_bind, attributesOf_ok h8 hle, h1, h2, h3,
    Outcome.pure_eq]

/-- **What the parser does with a next hop**, by its length field. -/
theorem parse_cases (f : NlaBuffer → Outcome RouteAttribute) (buf : Bytes) :
    (∃ e, newChecked buf = .err e) ∨ (newChecked buf = .panic) ∨
    (newChecked buf = .ok buf ∧ 8 ≤ buf.length ∧ rtnhLen buf < 8 ∧ parse f buf = .panic) ∨
    (newChecked buf = .ok buf ∧ 8 ≤ rtnhLen buf ∧ rtnhLen buf ≤ buf.length) := by
  rcases Nat.lt_or_ge buf.length 8 with h8 | h8
  · exact .inl (newChecked_short h8)
  rcases newChecked_cases h8 with ⟨hle, hc⟩ | ⟨-, -, h⟩ | ⟨-, -, h⟩
  · rcases Nat.lt_or_ge (rtnhLen buf) 8 with hlt | hge
    · refine .inr (.inr (.inl ⟨hc, h8, hlt, ?_⟩))
      simp only [parse, hc, Outcome.context_ok, Outcome.ok_bind, attributesOf_panic hlt h8,
        Outcome.panic_bind, Outcome.context_panic]
    · exact .inr (.inr (.inr ⟨hc, hge, hle⟩))
  · exact .inl h
  · exact .inr (.inl h)

/-! ## Parsers that agree on shorter buffers -/

/-- The attributes take the length of the hop less its header. -/
theorem length_attributeBytes (hle : rtnhLen buf ≤ buf.length) :
    (attributeBytes buf).length = rtnhLen buf - 8 := by
  rw [attributeBytes, List.length_drop, List.length_take, Nat.min_eq_left hle]

/-- A hop reads its attributes from shorter buffers only. -/
theorem parse_congr
    (h : ∀ nb : NlaBuffer, NlaValid nb.buffer → nb.buffer.length < buf.length → f nb = g nb) :
    parse f buf = parse g buf := by
  have hloop : ∀ p : Bytes, p.length < buf.length →
      forEach (fun nla => do f (← nla)) (nlas p) = forEach (fun nla => do g (← nla)) (nlas p) := by
    intro p hp
    refine forEach_congr fun o ho => ?_
    cases o with
    | ok nb => exact h nb (valid_of_mem_nlas ho) (Nat.lt_of_le_of_lt (length_le_of_mem_nlas ho) hp)
    | err e => rfl
    | panic => rfl
  rcases Nat.lt_or_ge buf.length 8 with h8 | h8
  · obtain ⟨e, he⟩ := newChecked_short h8
    simp only [parse, he, Outcome.context_err, Outcome.err_bind]
  rcases newChecked_cases h8 with ⟨hle, hc⟩ | ⟨-, -, e, he⟩ | ⟨-, -, hp⟩
  · rcases Nat.lt_or_ge (rtnhLen buf) 8 with hlt | hge
    · simp only [parse, hc, Outcome.context_ok, Outcome.ok_bind, attributesOf_panic hlt h8,
        Outcome.panic_bind, Outcome.context_panic]
    · have hlen := length_attributeBytes hle
      simp only [parse, hc, Outcome.context_ok, Outcome.ok_bind, attributesOf_ok hge hle]
      rw [hloop _ (by omega)]
  · simp only [parse, he, Outcome.context_err, Outcome.err_bind]
  · simp only [parse, hp, Outcome.context_panic, Outcome.panic_bind]

/-- So does the loop over hops. -/
theorem parseLoop_congr
    (h : ∀ nb : NlaBuffer, NlaValid nb.buffer → nb.buffer.length < buf.length → f nb = g nb) :
    parseLoop f fuel buf = parseLoop g fuel buf := by
  induction fuel generalizing buf with
  | zero => rfl
  | succ fuel ih =>
    simp only [parseLoop]
    rcases parse_cases f buf with ⟨e, he⟩ | hp | ⟨hc, -⟩ | ⟨hc, -⟩
    · simp only [he, Outcome.context_err, Outcome.err_bind]
    · simp only [hp, Outcome.context_panic, Outcome.panic_bind]
    all_goals
      simp only [hc, Outcome.context_ok, Outcome.ok_bind, parse_congr h]
      refine bind_congr fun len => bind_congr fun nh => ?_
      split
      · rfl
      · unfold sliceFrom
        split
        · simp only [Outcome.ok_bind]
          rw [ih fun nb hv hnb => h nb hv (by rw [List.length_drop] at hnb; omega)]
        · rfl

end RouteNextHop

/-! ## The parser without its counter -/

namespace RouteAttribute

variable {f g : NlaBuffer → Outcome RouteAttribute} {ctx : RouteContext} {nb : NlaBuffer}

/-- An attribute reads its hops from shorter buffers only, so the recursion
is well founded. -/
theorem parseOver_congr (hv : NlaValid nb.buffer)
    (h : ∀ nb' : NlaBuffer, NlaValid nb'.buffer → nb'.buffer.length < nb.buffer.length →
      f nb' = g nb') : parseOver f ctx nb = parseOver g ctx nb := by
  have hlen := hv.length_value
  have hle := hv.2
  have hloop : ∀ fuel, RouteNextHop.parseLoop f fuel (nlaValue nb.buffer) =
      RouteNextHop.parseLoop g fuel (nlaValue nb.buffer) := fun fuel =>
    RouteNextHop.parseLoop_congr fun nb' hv' hnb' => h nb' hv' (by omega)
  rw [parseOver, parseOver, hv.carries.bind, hv.carries.bind, arms, arms, hloop]

/-- Enough levels are enough. -/
theorem parseAt_eq_parseAt (hv : NlaValid nb.buffer) {d d' : ℕ} (h : nb.buffer.length < d)
    (h' : nb.buffer.length < d') : parseAt ctx d nb = parseAt ctx d' nb := by
  induction d generalizing nb d' with
  | zero => omega
  | succ d ih =>
    obtain ⟨d', rfl⟩ : ∃ k, d' = k + 1 := ⟨d' - 1, by omega⟩
    rw [parseAt, parseAt]
    exact parseOver_congr hv fun nb' hv' hlt => ih hv' (by omega) (by omega)

/-- **The parser's own equation**: the attributes of next hops are parsed
as this one is. -/
theorem parseWithParam_eq (hv : NlaValid nb.buffer) :
    parseWithParam ctx nb = parseOver (parseWithParam ctx) ctx nb := by
  rw [parseWithParam, parseAt]
  exact parseOver_congr hv fun nb' hv' hlt => parseAt_eq_parseAt hv' hlt (by omega)

/-- The attribute, by its kind and payload. -/
theorem parseWithParam_of_carries {word : UInt16} {v : Bytes} (hc : Carries nb word v) :
    parseWithParam ctx nb =
      select (word &&& NLA_TYPE_MASK) (arms (parseWithParam ctx) ctx nb v)
        (.other <$> (defaultNla nb).context "invalid NLA (unknown kind)") := by
  rw [parseWithParam_eq hc.valid, parseOver, hc.bind]

end RouteAttribute

end

end NetlinkRoute
