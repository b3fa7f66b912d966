import NetlinkRoute.Route.Safety
/-!
# Route — a multipath, cut up

`RTA_MULTIPATH` holds next hops one after another, each with its length in
its first two bytes, and the loop that reads them is given all that is left.
It cuts its payload where the lengths say: a next hop is read from its own
bytes (`RouteNextHop.parse_append`), the loop comes back exactly with those
of a payload that is a list of them (`RouteNextHop.parseLoop_eq_ok_iff`),
and it ends whatever the lengths are (`RouteNextHop.parseLoop_fuel`). What
it does not do is to refuse every length that is wrong
(`RouteAttribute.cutsMultiPath_iff`).

What is in a next hop is decoded with the encapsulation type of the
message, not of the next hop, so an encapsulation of a next hop comes back
only when there is none (`RouteMessage.comesBack_iff_bare`).
-/

namespace NetlinkRoute

open PacketUtils Emitter

section

variable [PacketUtils]

/-! ## The loop -/

namespace RouteNextHop

variable {f : NlaBuffer → Outcome RouteAttribute} {buf c rest : Bytes} {nhs : List RouteNextHop}

/-- The bytes of one next hop: as many as their length field says. -/
structure IsChunk (c : Bytes) : Prop where
  le_length : 8 ≤ c.length
  rtnhLen_eq : rtnhLen c = c.length

/-- The lengths are below eight, or past the end, somewhere. -/
inductive Malformed : Bytes → Prop
  /-- In the first next hop. -/
  | here {buf : Bytes} (h : buf.length < 8 ∨ rtnhLen buf < 8 ∨ buf.length < rtnhLen buf) :
      Malformed buf
  /-- In what follows a next hop. -/
  | later {c rest : Bytes} (hc : IsChunk c) (hne : rest ≠ []) (h : Malformed rest) :
      Malformed (c ++ rest)

/-- The length field of what starts with a next hop. -/
theorem IsChunk.rtnhLen_append (hc : IsChunk c) (rest : Bytes) :
    rtnhLen (c ++ rest) = c.length := by
  have h2 : 2 ≤ c.length := Nat.le_trans (by decide) hc.le_length
  rw [← hc.rtnhLen_eq, rtnhLen, List.take_append_of_le_length h2, rtnhLen]

/-- The attributes of a hop end with its chunk. -/
theorem IsChunk.attributeBytes_append (hc : IsChunk c) (rest : Bytes) :
    attributeBytes (c ++ rest) = attributeBytes c := by
  rw [attributeBytes, hc.rtnhLen_append, attributeBytes, hc.rtnhLen_eq, List.take_left,
    List.take_length]

/-- A length field in order cuts a next hop off. -/
theorem isChunk_take (h8 : 8 ≤ rtnhLen buf) (hle : rtnhLen buf ≤ buf.length) :
    IsChunk (buf.take (rtnhLen buf)) := by
  have hlen : (buf.take (rtnhLen buf)).length = rtnhLen buf := List.length_take_of_le hle
  refine ⟨by omega, ?_⟩
  rw [hlen, rtnhLen, List.take_take, Nat.min_eq_left (by omega), rtnhLen]

/-- **A next hop is read from its own bytes**, whatever follows them. -/
theorem parse_append (hc : IsChunk c) (rest : Bytes) : parse f (c ++ rest) = parse f c := by
  have h8 := hc.le_length
  have hlen := hc.rtnhLen_append rest
  have hfull := hc.rtnhLen_eq
  have happ : (c ++ rest).length = c.length + rest.length := List.length_append
  have hchecked : newChecked c = .ok c := newChecked_of_le h8 (by omega)
  have hchecked' : newChecked (c ++ rest) = .ok (c ++ rest) :=
    newChecked_of_le (by omega) (by omega)
  have hattr := @attributesOf_ok _ c (by omega) (by omega)
  have hattr' := @attributesOf_ok _ (c ++ rest) (by omega) (by omega)
  rw [hc.attributeBytes_append] at hattr'
  have hflags : getU8 (c ++ rest) 2 = getU8 c 2 := getU8_inside (by omega)
  have hhops : getU8 (c ++ rest) 3 = getU8 c 3 := getU8_inside (by omega)
  have hindex : getU32 (c ++ rest) 4 = getU32 c 4 := getU32_inside (by omega)
  simp only [parse, hchecked, hchecked', hattr, hattr', hflags, hhops, hindex, Outcome.context_ok,
    Outcome.ok_bind]

/-- One turn of the loop, at a next hop that is not the last. -/
theorem parseLoop_append {fuel : ℕ} (hc : IsChunk c) (hne : rest ≠ []) :
    parseLoop f (fuel + 1) (c ++ rest) = (do
      let nh ← (parse f c).context "invalid RTA_MULTIPATH value"
      let nhs ← parseLoop f fuel rest
      .ok (nh :: nhs)) := by
  have h8 := hc.le_length
  have hlen := hc.rtnhLen_append rest
  have happ : (c ++ rest).length = c.length + rest.length := List.length_append
  have hpos : 0 < rest.length := List.length_pos_of_ne_nil hne
  have hword : (ne.toU16 ((c ++ rest).take 2)).toNat = c.length := hlen
  have hmore : ¬ (c ++ rest).length = c.length := by omega
  have hslice : sliceFrom (c ++ rest) c.length = .ok rest := by
    rw [sliceFrom_ok (by omega), List.drop_left]
  rw [parseLoop, newChecked_of_le (by omega) (by omega), Outcome.context_ok, Outcome.ok_bind,
    getU16_rtnhLen (by omega), Outcome.ok_bind, parse_append hc, hword]
  simp only [if_neg hmore, hslice, Outcome.ok_bind]

/-- The loop ends at the last chunk. -/
theorem parseLoop_last {fuel : ℕ} (hc : IsChunk c) :
    parseLoop f (fuel + 1) c =
      (fun nh => [nh]) <$> (parse f c).context "invalid RTA_MULTIPATH value" := by
  have h8 := hc.le_length
  have hlen := hc.rtnhLen_eq
  have hword : (ne.toU16 (c.take 2)).toNat = c.length := hlen
  rw [parseLoop, newChecked_of_le (by omega) (by omega), Outcome.context_ok, Outcome.ok_bind,
    getU16_rtnhLen (by omega), Outcome.ok_bind, hword]
  simp only [if_true]
  cases (parse f c).context "invalid RTA_MULTIPATH value" <;> rfl

/-- **Any fuel above the length of the payload is enough**: a length field
that lets the loop go on is not zero. -/
theorem parseLoop_fuel {fuel fuel' : ℕ} (h : buf.length < fuel) (h' : buf.length < fuel') :
    parseLoop f fuel buf = parseLoop f fuel' buf := by
  induction fuel generalizing fuel' buf with
  | zero => omega
  | succ fuel ih =>
    obtain ⟨fuel', rfl⟩ : ∃ k, fuel' = k + 1 := ⟨fuel' - 1, by omega⟩
    rcases parse_cases f buf with ⟨e, he⟩ | hp | ⟨hc, h8, -, hp⟩ | ⟨hc, h8, hle⟩
    · simp only [parseLoop, he, Outcome.context_err, Outcome.err_bind]
    · simp only [parseLoop, hp, Outcome.context_panic, Outcome.panic_bind]
    · simp only [parseLoop, hc, getU16_rtnhLen (show 2 ≤ buf.length by omega), hp,
        Outcome.context_ok, Outcome.ok_bind, Outcome.context_panic, Outcome.panic_bind]
    -- the turn that goes on: what is left is shorter, so both counters still exceed it
    · have hcut := isChunk_take h8 hle
      rcases Nat.lt_or_eq_of_le hle with hlt | heq
      · have hrest : buf.drop (rtnhLen buf) ≠ [] := fun hnil => by
          have := List.drop_eq_nil_iff.1 hnil
          omega
        have hshort : (buf.drop (rtnhLen buf)).length < fuel := by
          rw [List.length_drop]
          omega
        have hshort' : (buf.drop (rtnhLen buf)).length < fuel' := by
          rw [List.length_drop]
          omega
        rw [← List.take_append_drop (rtnhLen buf) buf, parseLoop_append hcut hrest,
          parseLoop_append hcut hrest, ih hshort hshort']
      · rw [List.take_of_length_le (Nat.le_of_eq heq.symm)] at hcut
        rw [parseLoop_last hcut, parseLoop_last hcut]

/-- `buf` is a list of next hops, each of which is read from its own bytes
as the one of `nhs` in its place. -/
structure Cuts (f : NlaBuffer → Outcome RouteAttribute) (buf : Bytes) (chunks : List Bytes)
    (nhs : List RouteNextHop) : Prop where
  flatten_eq : chunks.flatten = buf
  isChunk : ∀ c ∈ chunks, IsChunk c
  parse_eq : List.Forall₂ (fun c nh => parse f c = .ok nh) chunks nhs

/-- What the loop accepts is cut into chunks. -/
theorem exists_cuts_of_parseLoop {fuel : ℕ} (h : parseLoop f fuel buf = .ok nhs) :
    ∃ chunks, Cuts f buf chunks nhs := by
  induction fuel generalizing buf nhs with
  | zero => cases h
  | succ fuel ih =>
    obtain ⟨h8, hle, nh, rest, rfl, hnh, hrest⟩ := parseLoop_eq_ok h
    have hcut := isChunk_take h8 hle
    -- a next hop is parsed from its own bytes, whatever follows them
    have hown : parse f (buf.take (rtnhLen buf)) = .ok nh := by
      rw [← parse_append hcut (buf.drop (rtnhLen buf)), List.take_append_drop, hnh]
    obtain ⟨chunks, hchunks⟩ : ∃ chunks, Cuts f (buf.drop (rtnhLen buf)) chunks rest := by
      rcases hrest with ⟨heq, rfl⟩ | ⟨-, hrest⟩
      · exact ⟨[], by rw [← heq, List.drop_length]; rfl, by simp, .nil⟩
      · exact ih hrest
    refine ⟨buf.take (rtnhLen buf) :: chunks, ?_, ?_, .cons hown hchunks.parse_eq⟩
    · rw [List.flatten_cons, hchunks.flatten_eq, List.take_append_drop]
    · exact List.forall_mem_cons.2 ⟨hcut, hchunks.isChunk⟩

/-- What is cut into chunks the loop accepts, with one step of fuel each. -/
theorem parseLoop_of_cuts {chunks : List Bytes} {fuel : ℕ} (hne : nhs ≠ [])
    (h : Cuts f buf chunks nhs) (hfuel : chunks.length ≤ fuel) :
    parseLoop f fuel buf = .ok nhs := by
  obtain ⟨rfl, hchunks, hparse⟩ := h
  induction hparse generalizing fuel with
  | nil => exact absurd rfl hne
  | @cons c nh chunks nhs hnh hparse ih =>
    obtain ⟨fuel, rfl⟩ : ∃ k, fuel = k + 1 := ⟨fuel - 1, by rw [List.length_cons] at hfuel; omega⟩
    obtain ⟨hc, hchunks⟩ := List.forall_mem_cons.1 hchunks
    rw [List.flatten_cons]
    cases hparse with
    | nil => simp [parseLoop_last hc, hnh]
    | @cons c' nh' chunks nhs hnh' hparse =>
      have hc' := (hchunks c' (by simp)).le_length
      have hrest : (c' :: chunks).flatten ≠ [] := by
        intro hnil
        rw [List.flatten_cons, List.append_eq_nil_iff] at hnil
        simp [hnil.1] at hc'
      rw [parseLoop_append hc hrest, hnh, ih (by simp) (by simpa using hfuel) hchunks]
      rfl

/-- **The loop comes back with the next hops of a payload that is a list
of them**, and with nothing else. -/
theorem parseLoop_eq_ok_iff {fuel : ℕ} (hfuel : buf.length < fuel) :
    parseLoop f fuel buf = .ok nhs ↔ nhs ≠ [] ∧ ∃ chunks, Cuts f buf chunks nhs := by
  constructor
  · intro h
    exact ⟨holds_parseLoop_ne_nil _ h, exists_cuts_of_parseLoop h⟩
  · rintro ⟨hne, chunks, h⟩
    refine parseLoop_of_cuts hne h ?_
    -- a next hop takes a byte at least, so there are no more of them than bytes
    have hle : chunks.length ≤ chunks.flatten.length := by
      rw [List.length_flatten]
      refine (List.length_map (f := List.length)).symm.trans_le ?_
      refine List.length_le_sum_of_one_le _ fun n hn => ?_
      obtain ⟨c, hc, rfl⟩ := List.mem_map.1 hn
      exact Nat.le_trans (by decide) (h.isChunk c hc).le_length
    rw [h.flatten_eq] at hle
    omega

/-- A list of next hops has all its lengths in order. -/
theorem Malformed.not_cuts (h : Malformed buf) {chunks : List Bytes} (hne : nhs ≠ []) :
    ¬ Cuts f buf chunks nhs := by
  induction h generalizing chunks nhs with
  | here hbad =>
    rintro ⟨rfl, hchunks, hparse⟩
    cases hparse with
    | nil => exact hne rfl
    | @cons c _ chunks _ _ _ =>
      have hc := hchunks c (by simp)
      have h8 := hc.le_length
      have hlen := hc.rtnhLen_append chunks.flatten
      rw [List.flatten_cons, List.length_append, hlen] at hbad
      omega
  | @later c rest hc hrest _ ih =>
    rintro ⟨heq, hchunks, hparse⟩
    cases hparse with
    | nil => exact hne rfl
    | @cons c' nh chunks nhs hnh hparse =>
      obtain ⟨hc', hchunks⟩ := List.forall_mem_cons.1 hchunks
      -- both start with the bytes that the length field of the whole says
      have hlen : c'.length = c.length := by
        rw [← hc'.rtnhLen_append chunks.flatten, ← hc.rtnhLen_append rest, ← heq,
          List.flatten_cons]
      obtain ⟨rfl, hflat⟩ := List.append_inj heq hlen
      refine ih (fun hnil => ?_) ⟨hflat, hchunks, hparse⟩
      subst hnil
      cases hparse
      exact hrest hflat.symm

end RouteNextHop

/-! ## The attribute -/

namespace RouteAttribute

open RouteNextHop

variable {ctx : RouteContext} {nb : NlaBuffer} {word : UInt16} {p : Bytes}

/-- The payload is cut where its lengths say: next hops come back exactly
with those of a payload that is a list of them, however much fuel there is,
and a length that is wrong is refused. -/
structure CutsMultiPath (ctx : RouteContext) (nb : NlaBuffer) (p : Bytes) : Prop where
  ends : ∀ fuel, p.length < fuel →
    parseWithParam ctx nb = .multiPath <$> parseLoop (parseWithParam ctx) fuel p
  ok_iff : ∀ nhs, parseWithParam ctx nb = .ok (.multiPath nhs) ↔
    nhs ≠ [] ∧ ∃ chunks, Cuts (parseWithParam ctx) p chunks nhs
  refuses : Malformed p → ∃ e, parseWithParam ctx nb = .err e

/-- The decoder runs the loop, and needs no more fuel than it is given. -/
theorem parseWithParam_multiPath (hc : Carries nb word p)
    (hk : word &&& NLA_TYPE_MASK = RTA_MULTIPATH) {fuel : ℕ} (hfuel : p.length < fuel) :
    parseWithParam ctx nb = .multiPath <$> parseLoop (parseWithParam ctx) fuel p := by
  rw [parseWithParam_of_carries hc, hk, select_of_find rfl,
    parseLoop_fuel hfuel (Nat.lt_succ_self _)]

/-- The attribute gives hops exactly where its payload is cut into some. -/
theorem parseWithParam_eq_multiPath_iff {nhs : List RouteNextHop} (hc : Carries nb word p)
    (hk : word &&& NLA_TYPE_MASK = RTA_MULTIPATH) :
    parseWithParam ctx nb = .ok (.multiPath nhs) ↔
      nhs ≠ [] ∧ ∃ chunks, Cuts (parseWithParam ctx) p chunks nhs := by
  rw [parseWithParam_multiPath hc hk (Nat.lt_succ_self _), Outcome.map_eq_ok,
    ← parseLoop_eq_ok_iff (Nat.lt_succ_self _)]
  simp

/-- What has a wrong length does not come back as next hops. -/
theorem refuses_iff (hc : Carries nb word p) (hk : word &&& NLA_TYPE_MASK = RTA_MULTIPATH)
    (hbad : Malformed p) :
    (∃ e, parseWithParam ctx nb = .err e) ↔ parseWithParam ctx nb ≠ .panic := by
  have hnot : ∀ nhs, parseLoop (parseWithParam ctx) (p.length + 1) p ≠ .ok nhs := by
    intro nhs h
    obtain ⟨hne, chunks, hcuts⟩ := (parseLoop_eq_ok_iff (Nat.lt_succ_self _)).1 h
    exact hbad.not_cuts hne hcuts
  rw [parseWithParam_multiPath hc hk (Nat.lt_succ_self _)]
  cases hloop : parseLoop (parseWithParam ctx) (p.length + 1) p with
  | ok nhs => exact absurd hloop (hnot nhs)
  | err e => simp
  | panic => simp

/-- **A multipath is cut where its lengths say, unless one of them is
wrong and the decoder panics before it can refuse it.** -/
theorem cutsMultiPath_iff (hc : Carries nb word p)
    (hk : word &&& NLA_TYPE_MASK = RTA_MULTIPATH) :
    CutsMultiPath ctx nb p ↔ (Malformed p → ¬ Defect ctx nb) := by
  rw [← parseWithParam_eq_panic_iff hc.valid]
  constructor
  · intro h hbad
    exact (refuses_iff hc hk hbad).1 (h.refuses hbad)
  · intro h
    refine ⟨fun fuel hfuel => parseWithParam_multiPath hc hk hfuel,
      fun nhs => parseWithParam_eq_multiPath_iff hc hk, fun hbad => ?_⟩
    exact (refuses_iff hc hk hbad).2 (h hbad)

end RouteAttribute

/-! ## Encapsulations of next hops -/

omit [PacketUtils] in
/-- The encapsulation is of the variant that the type selects, one of the
three that select one. -/
def RouteLwTunnelEncap.Selected : RouteLwEnCapType → RouteLwTunnelEncap → Prop
  | .mpls, .mpls _ | .seg6, .seg6 _ | .seg6Local, .seg6Local _ => True
  | _, _ => False

/-- The next hop has an encapsulation and its type. Its other attributes
are what the context asks of them. -/
structure RouteNextHop.Encapsulated (ctx : RouteContext) (nh : RouteNextHop)
    (t : RouteLwEnCapType) : Prop where
  type_mem : t = .mpls ∨ t = .seg6 ∨ t = .seg6Local
  encapType_mem : .encapType t ∈ nh.attributes
  exists_encap : ∃ l, .encap l ∈ nh.attributes
  encapType_eq : ∀ v, .encapType v ∈ nh.attributes → v = t
  selected : ∀ l, .encap l ∈ nh.attributes → ∀ e ∈ l, e.Selected t
  others : ∀ a ∈ nh.attributes, (∀ v, a ≠ .encapType v) → (∀ l, a ≠ .encap l) →
    a.Everywhere (RouteAttribute.WellFormed ctx) ∧ a.Everywhere RouteAttribute.NotNhid

namespace RouteMessage

variable {m : RouteMessage} {nhs : List RouteNextHop}

/-- The message comes back: written into a zeroed buffer, it is decoded as
it was. -/
def ComesBack (m : RouteMessage) : Prop :=
  ∃ out, m.emit.run (zeros m.bufferLen) = .ok out ∧ decode out = .ok m

/-- The message has next hops with encapsulations, each with its own type,
and no type of its own. -/
structure Encapsulated (m : RouteMessage) (nhs : List RouteNextHop) : Prop where
  header : m.header.WellFormed
  not_encapType : ∀ v, .encapType v ∉ m.attributes
  mem : .multiPath nhs ∈ m.attributes
  ne_nil : nhs ≠ []
  hops : ∀ nh ∈ nhs, ∃ t, nh.Encapsulated m.context t
  others : ∀ a ∈ m.attributes, a ≠ .multiPath nhs →
    a.Everywhere (RouteAttribute.WellFormed m.context) ∧ a.Everywhere RouteAttribute.NotNhid

/-- The next hops' encapsulations are empty. -/
def Bare (nhs : List RouteNextHop) : Prop :=
  ∀ nh ∈ nhs, ∀ l, .encap l ∈ nh.attributes → l = []

omit [PacketUtils] in
/-- Without a type attribute there is no encapsulation. -/
theorem encapTypeOf_eq_none {as : List RouteAttribute} (h : ∀ v, .encapType v ∉ as) :
    encapTypeOf as = .none := by
  induction as with
  | nil => rfl
  | cons a as ih =>
    have htail := ih fun v hv => h v (List.mem_cons_of_mem _ hv)
    cases a with
    | encapType v => exact absurd (List.mem_cons_self ..) (h v)
    | _ => exact htail

/-- What a message without a type decodes in a next hop is of no variant
that a type selects. -/
theorem bare_of_comesBack (h : Encapsulated m nhs) (hm : ComesBack m) : Bare nhs := by
  obtain ⟨out, -, hdec⟩ := hm
  have hnone : m.context.encapType = .none := encapTypeOf_eq_none h.not_encapType
  have hw := wellFormed_of_decode hdec (by rw [hnone]; simp)
  intro nh hnh l hl
  obtain ⟨t, ht⟩ := h.hops nh hnh
  have hall := (RouteAttribute.everywhere_multiPath_iff.1 (hw.2 _ h.mem)).2 nh hnh _ hl
  have hencap : ∀ e ∈ l, e.WellFormed m.context.encapType := hall.self
  rw [List.eq_nil_iff_forall_not_mem]
  intro e he
  have hother := hencap e he
  have hselected := ht.selected l hl e he
  rw [hnone] at hother
  cases e with
  | other v => rcases ht.type_mem with rfl | rfl | rfl <;> exact hselected
  | _ => exact hother

/-- Hops without an encapsulation come back. -/
theorem comesBack_of_bare (h : Encapsulated m nhs) (hs : m.Sized) (hb : Bare nhs) :
    ComesBack m := by
  refine decode_emitted_of_roundTrips h.header hs fun a ha => ?_
  by_cases hmulti : a = .multiPath nhs
  · subst hmulti
    -- inside a next hop: the type comes back as it is, an empty list is of any type,
    -- and nothing else depends on one
    have hboth : ∀ nh ∈ nhs, ∀ a ∈ nh.attributes,
        a.Everywhere (RouteAttribute.WellFormed m.context) ∧
          a.Everywhere RouteAttribute.NotNhid := by
      intro nh hnh a ha
      obtain ⟨t, ht⟩ := h.hops nh hnh
      by_cases htype : ∃ v, a = .encapType v
      · obtain ⟨v, rfl⟩ := htype
        rw [ht.encapType_eq v ha]
        refine ⟨?_, by simp [RouteAttribute.Everywhere, RouteAttribute.NotNhid]⟩
        rcases ht.type_mem with rfl | rfl | rfl <;> exact rfl
      by_cases hencap : ∃ l, a = .encap l
      · obtain ⟨l, rfl⟩ := hencap
        rw [hb nh hnh l ha]
        simp [RouteAttribute.Everywhere, RouteAttribute.NotNhid, RouteAttribute.WellFormed]
      exact ht.others a ha (fun v hv => htype ⟨v, hv⟩) fun l hl => hencap ⟨l, hl⟩
    refine RouteAttribute.roundTrips (RouteAttribute.everywhere_multiPath_iff.2 ?_)
      (RouteAttribute.everywhere_multiPath_iff.2 ?_) (hs _ ha)
    · exact ⟨h.ne_nil, fun nh hnh a ha => (hboth nh hnh a ha).1⟩
    · exact ⟨by simp [RouteAttribute.NotNhid], fun nh hnh a ha => (hboth nh hnh a ha).2⟩
  · obtain ⟨hw, hn⟩ := h.others a ha hmulti
    exact RouteAttribute.roundTrips hw hn (hs a ha)

/-- **Encapsulations of next hops do not come back**, unless they are
empty: the type that stands next to them is not looked at. -/
theorem comesBack_iff_bare (h : Encapsulated m nhs) :
    (ComesBack m → Bare nhs) ∧ (m.Sized → (ComesBack m ↔ Bare nhs)) :=
  ⟨bare_of_comesBack h, fun hs => ⟨bare_of_comesBack h, comesBack_of_bare h hs⟩⟩

end RouteMessage

end

/-! ## On a little-endian host -/

namespace RouteAttribute

open RouteNextHop

attribute [local instance] Reference.little

/-- IPv4, unicast, and no encapsulation. -/
def plain : RouteContext := ⟨.inet, .unicast, .none⟩

/-- Two next hops without attributes. -/
def twoHops : Bytes := [8, 0, 0, 0, 2, 0, 0, 0, 8, 0, 0, 1, 3, 0, 0, 0]

theorem carries_twoHops :
    Carries ⟨encodeNla RTA_MULTIPATH twoHops⟩ RTA_MULTIPATH twoHops := by
  have hlen : twoHops.length ≤ 65531 := by decide
  have hc : Carries ⟨encodeNla RTA_MULTIPATH twoHops ++ []⟩ RTA_MULTIPATH twoHops :=
    carries_encodeNla hlen
  rwa [List.append_nil] at hc

theorem twoHops_cutsMultiPath :
    Carries ⟨encodeNla RTA_MULTIPATH twoHops⟩ RTA_MULTIPATH twoHops ∧
      CutsMultiPath plain ⟨encodeNla RTA_MULTIPATH twoHops⟩ twoHops := by
  have hok : parseWithParam plain ⟨encodeNla RTA_MULTIPATH twoHops⟩ =
      .ok (.multiPath [⟨0, 0, 2, []⟩, ⟨0, 1, 3, []⟩]) := rfl
  refine ⟨carries_twoHops, (cutsMultiPath_iff carries_twoHops rfl).2 fun _ hdefect => ?_⟩
  rw [← parseWithParam_eq_panic_iff carries_twoHops.valid, hok] at hdefect
  cases hdefect

/-- A length of four is not refused: the eight bytes of the fixed part are
subtracted from it. -/
theorem four_not_cutsMultiPath :
    Malformed [4, 0, 0, 0, 0, 0, 0, 0] ∧
      parseWithParam plain ⟨encodeNla RTA_MULTIPATH [4, 0, 0, 0, 0, 0, 0, 0]⟩ = .panic ∧
      ¬ CutsMultiPath plain ⟨encodeNla RTA_MULTIPATH [4, 0, 0, 0, 0, 0, 0, 0]⟩
        [4, 0, 0, 0, 0, 0, 0, 0] := by
  have hbad : Malformed [4, 0, 0, 0, 0, 0, 0, 0] := .here (by decide)
  have hpanic :
      parseWithParam plain ⟨encodeNla RTA_MULTIPATH [4, 0, 0, 0, 0, 0, 0, 0]⟩ = .panic := rfl
  refine ⟨hbad, hpanic, fun h => ?_⟩
  obtain ⟨e, he⟩ := h.refuses hbad
  rw [hpanic] at he
  cases he

end RouteAttribute

namespace RouteMessage

attribute [local instance] Reference.little

/-- A route over one next hop, with this encapsulation. -/
def overHop (l : List RouteLwTunnelEncap) : RouteMessage :=
  ⟨.default_, [.multiPath [⟨0, 0, 2, [.encapType .mpls, .encap l]⟩]]⟩

/-- One label, 16. -/
def label16 : RouteLwTunnelEncap := .mpls (.destination [⟨16, 0, true, 64⟩])

theorem encapsulated_overHop {l : List RouteLwTunnelEncap} (h : ∀ e ∈ l, e.Selected .mpls) :
    Encapsulated (overHop l) [⟨0, 0, 2, [.encapType .mpls, .encap l]⟩] where
  header := (by decide : RouteHeader.default_.WellFormed)
  not_encapType := by simp [overHop]
  mem := List.mem_singleton_self _
  ne_nil := by simp
  hops := by
    refine List.forall_mem_singleton.2 ⟨.mpls, .inl rfl, by simp, ⟨l, by simp⟩, by simp, ?_, ?_⟩
    · intro l' hl' e he
      have heq : l' = l := by simpa using hl'
      exact h e (heq ▸ he)
    · intro a ha htype hencap
      simp only [List.mem_cons, List.not_mem_nil, or_false] at ha
      rcases ha with rfl | rfl
      · exact absurd rfl (htype _)
      · exact absurd rfl (hencap _)
  others := by simp [overHop]

theorem empty_comesBack : Encapsulated (overHop []) [⟨0, 0, 2, [.encapType .mpls, .encap []]⟩] ∧
    (overHop []).Sized ∧ ComesBack (overHop []) := by
  have he : Encapsulated (overHop []) [⟨0, 0, 2, [.encapType .mpls, .encap []]⟩] :=
    encapsulated_overHop (by simp)
  have hs : (overHop []).Sized := List.forall_mem_singleton.2 (by decide)
  exact ⟨he, hs, ((comesBack_iff_bare he).2 hs).2 (by simp [Bare])⟩

/-- The bytes of the next hop, its type and its encapsulation. -/
def hopBytes : Bytes := [28, 0, 0, 0, 2, 0, 0, 0] ++ [6, 0, 21, 0, 1, 0, 0, 0] ++
  [12, 0, 22, 0, 8, 0, 1, 0, 0, 1, 1, 64]

/-- A label comes back as an attribute that is not known. -/
theorem label16_not_comesBack :
    Encapsulated (overHop [label16]) [⟨0, 0, 2, [.encapType .mpls, .encap [label16]]⟩] ∧
      (overHop [label16]).emit.run (zeros (overHop [label16]).bufferLen) =
        .ok (zeros 12 ++ ([32, 0, 9, 0] ++ hopBytes)) ∧
      decode (zeros 12 ++ ([32, 0, 9, 0] ++ hopBytes)) =
        .ok (overHop [.other ⟨1, [0, 1, 1, 64]⟩]) ∧
      ¬ ComesBack (overHop [label16]) := by
  have he : Encapsulated (overHop [label16])
      [⟨0, 0, 2, [.encapType .mpls, .encap [label16]]⟩] :=
    encapsulated_overHop (List.forall_mem_singleton.2 trivial)
  refine ⟨he, rfl, rfl, fun h => ?_⟩
  have hbare := bare_of_comesBack he h _ (List.mem_singleton_self _) [label16] (by simp)
  cases hbare

end RouteMessage

end NetlinkRoute
