import NetlinkRoute.Tc.Model.Message
/-!
# Traffic control — statistics and actions come back

Statistics and options of an action are read as its kind says, so what
is written comes back when it is of the variant that the kind selects:
`Fits kind`. What the decoder gives fits the kind that it was read with.
The kind of an action is found in the list that is written, because the
search for kinds and the parser of attributes agree on which attribute
holds one (`TcAction.parseKind_of_parse`).
-/

namespace NetlinkRoute

open PacketUtils Emitter

section

variable [PacketUtils] {nb : NlaBuffer} {kind : String} {payload : Bytes}

/-! ## Statistics -/

/-- Bytes that are kept do not start with the word of a structure. -/
def TcFqCodelXstats.WellFormed : TcFqCodelXstats → Prop
  | .other v => 4 ≤ v.length ∧ ne.toU32 (v.take 4) ≠ TCA_FQ_CODEL_XSTATS_QDISC ∧
      ne.toU32 (v.take 4) ≠ TCA_FQ_CODEL_XSTATS_CLASS
  | _ => True

namespace TcFqCodelXstats

variable {v : TcFqCodelXstats}

/-- A structure behind its word. -/
private theorem fills_word {α : Type} {s : StructCodec α} {x : α} {w : UInt32} {n : ℕ}
    (hn : n = s.len + 4) :
    Fills ((put 0 (ne.u32 w)).andThen (onTail 4 (s.emit x))) n (ne.u32 w ++ s.bytes x) := by
  have h := (covers_put (ne.u32 w)).fills_andThen_onTail (n := n) (s.writes_emit (v := x)).fills
    (by rw [length_u32, hn, Nat.add_comm])
  rwa [length_u32] at h

/-- The first word of the statistics says which structure follows. -/
private theorem parse_word {w : UInt32} {rest : Bytes} : parse (ne.u32 w ++ rest) =
    select w [
      (TCA_FQ_CODEL_XSTATS_QDISC, .qdisc <$> TcFqCodelQdStats.codec.parse rest),
      (TCA_FQ_CODEL_XSTATS_CLASS, .class_ <$> TcFqCodelClStats.codec.parse rest)]
      (.ok (.other (ne.u32 w ++ rest))) := by
  have hlen : 4 ≤ (ne.u32 w ++ rest).length := by
    rw [List.length_append, length_u32]
    exact Nat.le_add_right _ _
  rw [parse, if_neg (by omega), slice_append_left (length_u32 _ _).symm, Outcome.ok_bind,
    toU32_u32, sliceFrom_ok hlen, List.drop_left' (length_u32 _ _)]
  rfl

/-- Well-formed statistics come back from what they write. -/
theorem exists_emitted (h : v.WellFormed) : ∃ out, Fills v.emit v.bufferLen out ∧
    parse out = .ok v := by
  cases v with
  | qdisc v =>
    refine ⟨_, fills_word rfl, ?_⟩
    rw [parse_word, StructCodec.parse_bytes]
    rfl
  | class_ v =>
    refine ⟨_, fills_word rfl, ?_⟩
    rw [parse_word, StructCodec.parse_bytes]
    rfl
  | other v =>
    obtain ⟨hlen, hq, hc⟩ := h
    refine ⟨v, (writes_copy rfl).fills, ?_⟩
    rw [parse, if_neg (by omega), slice_ok (by omega) hlen, Outcome.ok_bind]
    exact select_default (by simpa using ⟨hq, hc⟩)

/-- The parser gives well-formed statistics only. -/
theorem holds_parse : (parse payload).Holds WellFormed := by
  unfold parse
  by_cases hlen : payload.length < 4
  · rw [if_pos hlen]
    exact Outcome.holds_fail _
  · rw [if_neg hlen, slice_ok (by omega) (by omega), Outcome.ok_bind]
    refine holds_select ?_ fun hk => ?_
    · simp [-bind_pure_comp, -map_bind, WellFormed]
    · simp only [List.map_cons, List.map_nil, List.mem_cons, List.not_mem_nil, or_false, not_or,
        Nat.sub_zero, List.drop_zero] at hk
      exact (Outcome.holds_ok _).2 ⟨by omega, hk⟩

end TcFqCodelXstats

/-- The variant is the one that the kind selects. -/
def TcXstats.Fits (kind : String) : TcXstats → Prop
  | .fqCodel v => kind = TcQdiscFqCodel.KIND ∧ v.WellFormed
  | .other _ => kind ≠ TcQdiscFqCodel.KIND

namespace TcXstats

variable {v : TcXstats}

/-- Statistics that fit the kind come back under it. -/
theorem exists_emitted (h : v.Fits kind) : ∃ out, Fills v.emit v.bufferLen out ∧
    ∀ nb word, Carries nb word out → parseWithParam nb kind = .ok v := by
  cases v with
  | fqCodel v =>
    obtain ⟨rfl, hv⟩ := h
    obtain ⟨out, hout, hp⟩ := v.exists_emitted hv
    refine ⟨out, hout, fun nb word hc => ?_⟩
    rw [parseWithParam, if_pos rfl, hc.value, Outcome.ok_bind, hp]
    rfl
  | other v =>
    refine ⟨v, (writes_copy rfl).fills, fun nb word hc => ?_⟩
    rw [parseWithParam, if_neg h, hc.value]
    rfl

/-- What is parsed fits the kind. -/
theorem holds_parse (hv : NlaValid nb.buffer) : (parseWithParam nb kind).Holds (Fits kind) := by
  unfold parseWithParam
  by_cases hk : kind = TcQdiscFqCodel.KIND
  · rw [if_pos hk, hv.carries.value, Outcome.ok_bind, Outcome.holds_map]
    exact TcFqCodelXstats.holds_parse.mono fun _ hw => ⟨hk, hw⟩
  · rw [if_neg hk, hv.carries.value]
    exact (Outcome.holds_ok _).2 hk

end TcXstats

namespace TcStats2

variable {a : TcStats2}

/-- The kinds the decoder names. -/
def kinds : List UInt16 := [TCA_STATS_APP, TCA_STATS_BASIC, TCA_STATS_QUEUE, TCA_STATS_BASIC_HW]

/-- What the kind decides is as it says, and an unknown attribute is of
none of the kinds the decoder names. -/
def Fits (kind : String) : TcStats2 → Prop
  | .app v => v.Fits kind
  | .other n => n.Unknown kinds
  | _ => True

/-- A nested statistic that fits the kind comes back under it. -/
theorem roundTrips (h : a.Fits kind) : RoundTrips (parseWithParam · kind) a.nla a := by
  cases a with
  | app v =>
    obtain ⟨out, hout, hp⟩ := v.exists_emitted h
    exact .of_arm_at hout TCA_STATS_APP rfl (fun _ => rfl) fun nb hc => by
      rw [hp nb _ hc]
      rfl
  | basic v =>
    exact .of_arm_at TcStatsBasic.codec.fills_emit TCA_STATS_BASIC rfl (fun _ => rfl) fun _ _ => by
      simp [HeaderCodec.parse_bytes (c := TcStatsBasic.codec) (h := v) trivial]
  | queue v =>
    exact .of_arm_at TcStatsQueue.codec.writes_emit.fills TCA_STATS_QUEUE rfl (fun _ => rfl)
      fun _ _ => by simp
  | basicHw v =>
    exact .of_arm_at TcStatsBasic.codec.fills_emit TCA_STATS_BASIC_HW rfl (fun _ => rfl)
      fun _ _ => by simp [HeaderCodec.parse_bytes (c := TcStatsBasic.codec) (h := v) trivial]
  | other n => exact .of_default_of (fun _ => h) fun nb hc => by rw [hc.defaultNla]; rfl

/-- Every nested statistic that is parsed fits the kind. -/
theorem holds_parse (hv : NlaValid nb.buffer) : (parseWithParam nb kind).Holds (Fits kind) := by
  refine hv.holds_parse_of ?_ fun hk => ?_
  · simp [Fits, TcXstats.holds_parse hv]
  · rw [hv.carries.defaultNla]
    exact (Outcome.holds_ok _).2 hk

end TcStats2

/-! ## Options of actions -/

/-- A structure written behind its length check is read back. -/
private theorem bind_checked_bytes {η : Type} {c : HeaderCodec η} {name : String} {v : η}
    (hw : c.WellFormed v) :
    (do c.parse (← checkedBuffer name c.len (c.bytes v))) = .ok v := by
  rw [checkedBuffer_of_le (Nat.le_of_eq c.length_bytes.symm), Outcome.ok_bind, c.parse_bytes hw]

private theorem holds_bind_checked {η : Type} {c : HeaderCodec η} {name : String} :
    (do c.parse (← checkedBuffer name c.len payload)).Holds c.WellFormed := by
  refine Outcome.holds_bind.2 fun buf hbuf => ?_
  obtain ⟨hle, rfl⟩ := checkedBuffer_eq_ok_iff.1 hbuf
  obtain ⟨v, hv, hw⟩ := c.parse_of_le payload hle
  rw [hv]
  exact (Outcome.holds_ok _).2 hw

namespace TcActionMirrorOption

variable {a : TcActionMirrorOption}

/-- The kinds the decoder names. -/
def kinds : List UInt16 := [TCA_MIRRED_TM, TCA_MIRRED_PARMS]

/-- Enumerations are canonical, and an unknown attribute is of none of the
kinds the decoder names. -/
def Canonical : TcActionMirrorOption → Prop
  | .tm _ => True
  | .parms v => TcMirror.codec.WellFormed v
  | .other n => n.Unknown kinds

/-- A canonical option of a mirror comes back. -/
theorem roundTrips (h : a.Canonical) : RoundTrips parse a.nla a := by
  cases a with
  | tm v => exact writes_bytes.roundTrips_arm TCA_MIRRED_TM rfl rfl (by simp)
  | parms v =>
    exact .of_arm TcMirror.codec.fills_emit TCA_MIRRED_PARMS rfl rfl
      (by rw [bind_checked_bytes h]; rfl)
  | other n => exact .of_default_of (fun _ => h) fun nb hc => by rw [hc.defaultNla]; rfl

/-- The parser of a mirror gives canonical options only. -/
theorem holds_parse (hv : NlaValid nb.buffer) : (parse nb).Holds Canonical := by
  refine hv.holds_parse_of ?_ fun hk => ?_
  · simp [-bind_pure_comp, -map_bind, Canonical, holds_bind_checked]
  · rw [hv.carries.defaultNla]
    exact (Outcome.holds_ok _).2 hk

end TcActionMirrorOption

namespace TcActionNatOption

variable {a : TcActionNatOption}

/-- The kinds the decoder names. -/
def kinds : List UInt16 := [TCA_NAT_TM, TCA_NAT_PARMS]

/-- Enumerations are canonical, and an unknown attribute is of none of the
kinds the decoder names. -/
def Canonical : TcActionNatOption → Prop
  | .tm _ => True
  | .parms v => TcNat.codec.WellFormed v
  | .other n => n.Unknown kinds

/-- A canonical option of an address translation comes back. -/
theorem roundTrips (h : a.Canonical) : RoundTrips parse a.nla a := by
  cases a with
  | tm v => exact writes_bytes.roundTrips_arm TCA_NAT_TM rfl rfl (by simp)
  | parms v =>
    exact .of_arm TcNat.codec.fills_emit TCA_NAT_PARMS rfl rfl
      (by rw [bind_checked_bytes h]; rfl)
  | other n => exact .of_default_of (fun _ => h) fun nb hc => by rw [hc.defaultNla]; rfl

/-- The parser of an address translation gives canonical options only. -/
theorem holds_parse (hv : NlaValid nb.buffer) : (parse nb).Holds Canonical := by
  refine hv.holds_parse_of ?_ fun hk => ?_
  · simp [-bind_pure_comp, -map_bind, Canonical, holds_bind_checked]
  · rw [hv.carries.defaultNla]
    exact (Outcome.holds_ok _).2 hk

end TcActionNatOption

namespace TcActionOption

variable {a : TcActionOption}

/-- The variant is the one that the kind of the action selects. -/
def Fits (kind : String) : TcActionOption → Prop
  | .mirror v => kind = TcActionMirror.KIND ∧ v.Canonical
  | .nat v => kind = TcActionNat.KIND ∧ v.Canonical
  | .other _ => kind ≠ TcActionMirror.KIND ∧ kind ≠ TcActionNat.KIND

/-- An option that fits the kind of its action comes back under it. -/
theorem roundTrips (h : a.Fits kind) : RoundTrips (parseWithParam · kind) a.nla a := by
  cases a with
  | mirror v =>
    obtain ⟨rfl, hv⟩ := h
    obtain ⟨out, hout, hp⟩ := v.roundTrips hv
    exact ⟨out, hout, fun nb hc => (select_of_find rfl).trans (by rw [hp nb hc]; rfl)⟩
  | nat v =>
    obtain ⟨rfl, hv⟩ := h
    obtain ⟨out, hout, hp⟩ := v.roundTrips hv
    exact ⟨out, hout, fun nb hc => (select_of_find rfl).trans (by rw [hp nb hc]; rfl)⟩
  | other n =>
    refine writes_bytes.roundTrips fun nb hc => ?_
    rw [parseWithParam, select_default (by simpa [Fits] using h), hc.defaultNla]
    rfl

/-- Every option that is parsed fits the kind of its action. -/
theorem holds_parse (hv : NlaValid nb.buffer) : (parseWithParam nb kind).Holds (Fits kind) := by
  refine select_ind (P := Outcome.Holds (Fits kind)) (fun arm ha hk => ?_) fun hk => ?_
  · simp only [List.mem_cons, List.not_mem_nil, or_false] at ha
    rcases ha with rfl | rfl
    · rw [Outcome.holds_map, Outcome.holds_context]
      exact (TcActionMirrorOption.holds_parse hv).mono fun _ hc => ⟨hk, hc⟩
    · rw [Outcome.holds_map, Outcome.holds_context]
      exact (TcActionNatOption.holds_parse hv).mono fun _ hc => ⟨hk, hc⟩
  · rw [hv.carries.defaultNla]
    exact (Outcome.holds_ok _).2 (by simpa [Fits] using hk)

end TcActionOption

/-! ## Actions -/

namespace TcActionAttribute

variable {a : TcActionAttribute}

/-- The kinds the decoder names. -/
def kinds : List UInt16 :=
  [TCA_ACT_KIND, TCA_ACT_OPTIONS, TCA_ACT_INDEX, TCA_ACT_STATS, TCA_ACT_COOKIE, TCA_ACT_IN_HW_COUNT]

/-- Options and statistics fit the kind, and an unknown attribute is of
none of the kinds the decoder names. -/
def Fits (kind : String) : TcActionAttribute → Prop
  | .options l => ∀ o ∈ l, o.Fits kind
  | .stats l => ∀ s ∈ l, s.Fits kind
  | .other n => n.Unknown kinds
  | _ => True

/-- An attribute of an action comes back under its kind, nested lists within
their length word. -/
theorem roundTrips (h : a.Fits kind) (hs : a.valueLen ≤ 65531) :
    RoundTrips (parseWithParam · kind) a.nla a := by
  cases a with
  | kind_ v => exact writes_emitStringNul.roundTrips_arm TCA_ACT_KIND rfl rfl (by simp)
  | options l =>
    obtain ⟨out, hout, hread⟩ := exists_readsAs (r := id) (t := TcActionOption.nla)
      (fun i hi _ => TcActionOption.roundTrips (h i hi)) hs
    exact .of_arm hout (TCA_ACT_OPTIONS ||| NLA_F_NESTED) rfl rfl
      (by simp [hread.parseNlas_eq])
  | index v => exact writes_u32.roundTrips_arm TCA_ACT_INDEX rfl rfl (by simp)
  | stats l =>
    obtain ⟨out, hout, hread⟩ := exists_readsAs (r := id) (t := TcStats2.nla)
      (fun i hi _ => TcStats2.roundTrips (h i hi)) hs
    exact .of_arm hout TCA_ACT_STATS rfl rfl (by simp [hread.parseNlas_eq])
  | cookie v => exact writes_bytes.roundTrips_arm TCA_ACT_COOKIE rfl rfl (by simp)
  | inHwCount v => exact writes_u32.roundTrips_arm TCA_ACT_IN_HW_COUNT rfl rfl (by simp)
  | other n => exact .of_default h

/-- Every attribute that is parsed fits the kind of its action. -/
theorem holds_parse (hv : NlaValid nb.buffer) : (parseWithParam nb kind).Holds (Fits kind) := by
  have hoptions : ∀ {err err' : String}, (parseNlas err err' (TcActionOption.parseWithParam · kind)
      (nlaValue nb.buffer)).Holds fun l => ∀ o ∈ l, o.Fits kind :=
    holds_parseNlas fun _ hnb => TcActionOption.holds_parse (valid_of_mem_nlas hnb)
  have hstats : ∀ {err err' : String}, (parseNlas err err' (TcStats2.parseWithParam · kind)
      (nlaValue nb.buffer)).Holds fun l => ∀ s ∈ l, s.Fits kind :=
    holds_parseNlas fun _ hnb => TcStats2.holds_parse (valid_of_mem_nlas hnb)
  exact hv.holds_parse (by simp [Fits, hoptions, hstats]) fun _ hk => hk

/-- The kinds that an attribute names. -/
def names : TcActionAttribute → List String
  | .kind_ s => [s]
  | _ => []

/-- The search for kinds sees in an attribute what the parser makes of it. -/
theorem holds_parseKind (hv : NlaValid nb.buffer) : (parseWithParam nb kind).Holds fun a =>
    TcAction.parseKind (.ok nb) = .ok a.names := by
  have hc := hv.carries
  -- the search parses the name of a kind as the attribute's own arm does
  have hfound : wireKind nb = TCA_ACT_KIND → TcAction.parseKind (.ok nb) = List.singleton <$>
      (parseString (nlaValue nb.buffer)).context "failed to parse TCA_ACT_KIND" := by
    intro hk
    rw [TcAction.parseKind, Outcome.context_ok, Outcome.ok_bind, hc.kind, Outcome.ok_bind, hc.value,
      if_pos hk, Outcome.ok_bind]
  have hother : wireKind nb ≠ TCA_ACT_KIND → TcAction.parseKind (.ok nb) = .ok [] := by
    intro hk
    rw [TcAction.parseKind, Outcome.context_ok, Outcome.ok_bind, hc.kind, Outcome.ok_bind,
      if_neg hk]
  rw [parseWithParam, hc.bind]
  refine select_ind (P := Outcome.Holds fun a : TcActionAttribute =>
    TcAction.parseKind (.ok nb) = .ok a.names) (fun arm ha hk => ?_) fun hk => ?_
  · simp only [List.mem_cons, List.not_mem_nil, or_false] at ha
    rcases ha with rfl | rfl | rfl | rfl | rfl | rfl
    · intro a ha
      obtain ⟨s, hs, rfl⟩ := (Outcome.map_eq_ok _).1 ha
      rw [hfound hk, hs]
      rfl
    all_goals
      -- no other arm makes a name
      have hne : wireKind nb ≠ TCA_ACT_KIND := fun h =>
        absurd (hk.symm.trans h) (by dsimp only; decide)
      rw [hother hne]
      simp [names]
  · rw [hother fun h => hk (h ▸ List.mem_cons_self)]
    simp [names]

end TcActionAttribute

namespace TcAction

variable {a : TcAction}

/-- The kinds that the attributes of an action name. -/
def kinds (a : TcAction) : List String := a.attributes.flatMap TcActionAttribute.names

/-- The number of the action leaves the flags free, one attribute names the
kind, and all of them fit it. -/
def WellFormed (a : TcAction) : Prop :=
  a.tab < 0x4000 ∧ ∃ kind, a.kinds = [kind] ∧ ∀ attr ∈ a.attributes, attr.Fits kind

/-- The search goes through the attributes as the parser does. -/
theorem forEach_parseKind {as : List TcActionAttribute}
    (h : parseEach (TcActionAttribute.parseWithParam · kind) payload = .ok as) :
    forEach parseKind (nlas payload) = .ok (as.map TcActionAttribute.names) := by
  refine forEach_eq_map h fun nla hnla attr hattr => ?_
  cases nla with
  | ok nb => exact TcActionAttribute.holds_parseKind (valid_of_mem_nlas hnla) attr hattr
  | err e => cases hattr
  | panic => cases hattr

/-- So it finds the kind that the attributes name, whatever kind they were
read with. -/
theorem findKind_eq_ok_iff {as : List TcActionAttribute} {k : String}
    (h : parseEach (TcActionAttribute.parseWithParam · kind) payload = .ok as) :
    findKind payload = .ok k ↔ as.flatMap TcActionAttribute.names = [k] := by
  rw [findKind, forEach_parseKind h, Outcome.map_ok, ← List.flatMap_def]
  rcases as.flatMap TcActionAttribute.names with _ | ⟨s, _ | ⟨s', l⟩⟩ <;> simp

omit [PacketUtils] in
/-- The place of an action in its table is a kind word without flags. -/
theorem tab_mask {tab : UInt16} (h : tab < 0x4000) : tab &&& NLA_TYPE_MASK = tab := by
  have hlt : tab.toNat < 0x4000 := UInt16.lt_iff_toNat_lt.1 h
  refine UInt16.toNat_inj.1 ?_
  rw [UInt16.toNat_and]
  exact (Nat.and_two_pow_sub_one_eq_mod tab.toNat 14).trans (Nat.mod_eq_of_lt hlt)

omit [PacketUtils] in
/-- A masked kind word is below the flag bits. -/
theorem mask_lt (word : UInt16) : word &&& NLA_TYPE_MASK < 0x4000 := by
  rw [UInt16.lt_iff_toNat_lt, UInt16.toNat_and]
  exact Nat.and_lt_two_pow word.toNat (n := 14) (by decide)

/-- **An action comes back**, read with the kind that it names. -/
theorem roundTrips (h : a.WellFormed) (hs : a.nla.valueLen ≤ 65531) :
    RoundTrips parse a.nla a := by
  obtain ⟨htab, kind, hkinds, hfits⟩ := h
  obtain ⟨out, hout, hread⟩ := exists_readsAs (r := id) (t := TcActionAttribute.nla)
    (fun attr hattr hs => TcActionAttribute.roundTrips (hfits attr hattr) hs) hs
  rw [List.map_id] at hread
  have hattrs := hread.parseEach_eq
  refine ⟨out, hout, fun nb hc => ?_⟩
  rw [parse, hc.value, Outcome.ok_bind, (findKind_eq_ok_iff hattrs).2 hkinds, Outcome.ok_bind,
    Outcome.ok_bind, hattrs, Outcome.ok_bind, hc.kind]
  simp only [nla, tab_mask htab, Outcome.ok_bind, Outcome.pure_eq]

/-- **What is read is well formed.** -/
theorem holds_parse (hv : NlaValid nb.buffer) : (parse nb).Holds WellFormed := by
  intro a ha
  rw [parse, hv.carries.value, Outcome.ok_bind, Outcome.bind_eq_ok] at ha
  obtain ⟨kind, hkind, ha⟩ := ha
  rw [Outcome.ok_bind, Outcome.bind_eq_ok] at ha
  obtain ⟨attrs, hattrs, ha⟩ := ha
  rw [hv.carries.kind, Outcome.ok_bind] at ha
  cases ha
  refine ⟨mask_lt _, kind, (findKind_eq_ok_iff hattrs).1 hkind, ?_⟩
  exact holds_parseEach (fun _ hnb => TcActionAttribute.holds_parse (valid_of_mem_nlas hnb))
    attrs hattrs

end TcAction

end

end NetlinkRoute
