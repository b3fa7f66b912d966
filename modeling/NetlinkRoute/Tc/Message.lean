import NetlinkRoute.Tc.RoundTrip.Options
import NetlinkRoute.Tc.Safety
/-!
# Traffic control — messages come back

Each attribute of a message is read with the kind that the last name in
front of it gives, and comes back when it fits that kind. So a message
whose attributes fit the kinds they follow comes back
(`TcMessage.decode_emit`). What was decoded does fit, but options of a
kind that is not known are kept as one attribute and come back inside
another: a decoded message survives being sent again exactly when it was
decoded without such options (`TcMessage.comesBack_iff_listed`).
-/

namespace NetlinkRoute

open PacketUtils Emitter

section

variable [PacketUtils] {nb : NlaBuffer} {kind : String} {payload b : Bytes}

/-! ## Attributes -/

namespace TcAttribute

variable {a : TcAttribute} {as : List TcAttribute}

/-- The kinds the decoder names. -/
def kinds : List UInt16 :=
  [TCA_KIND, TCA_OPTIONS, TCA_STATS, TCA_XSTATS, TCA_RATE, TCA_FCNT, TCA_STATS2, TCA_STAB,
    TCA_CHAIN, TCA_HW_OFFLOAD, TCA_DUMP_INVISIBLE]

/-- Options and statistics are what this kind selects, a flag that is there
is set, and an unknown attribute is of none of the kinds the decoder
names. -/
def Fits (kind : String) : TcAttribute → Prop
  | .options opts => VecTcOption.Fits kind opts
  | .xstats v => v.Fits kind
  | .stats2 l => ∀ s ∈ l, s.Fits kind
  | .dumpInvisible v => v = true
  | .other n => n.Unknown kinds
  | _ => True

/-- What comes back of an attribute. -/
def received : TcAttribute → TcAttribute
  | .options opts => .options (VecTcOption.received opts)
  | a => a

/-- What is received sets the kind that was sent. -/
theorem nextKind_received : a.received.nextKind kind = a.nextKind kind := by
  cases a <;> rfl

/-- An attribute that fits the kind is read back with it. -/
theorem parse_roundTrips (h : a.Fits kind) (hs : a.nla.valueLen ≤ 65531) :
    RoundTrips (parseWithParam · kind) a.nla a.received := by
  cases a with
  | kind_ v =>
    exact .of_arm_at writes_emitStringNul.fills TCA_KIND rfl (fun _ => rfl) fun _ _ => by
      simp [received]
  | options opts =>
    obtain ⟨out, hout, hp⟩ := VecTcOption.exists_emitted h hs
    exact .of_arm_at hout TCA_OPTIONS rfl (fun _ => rfl) fun nb hc => by
      simp [hp nb hc, received]
  | stats v =>
    have hle : TcStats.codec.len ≤ (TcStats.codec.bytes v).length :=
      Nat.le_of_eq TcStats.codec.length_bytes.symm
    refine .of_arm_at TcStats.codec.fills_emit TCA_STATS rfl (fun _ => rfl) fun _ _ => ?_
    rw [checkedBuffer_of_le hle, Outcome.context_ok, Outcome.ok_bind,
      TcStats.codec.parse_bytes trivial]
    rfl
  | xstats v =>
    obtain ⟨out, hout, hp⟩ := v.exists_emitted h
    exact .of_arm_at hout TCA_XSTATS rfl (fun _ => rfl) fun nb hc => by
      simp [hp nb _ hc, received]
  | rate v =>
    exact .of_arm_at writes_bytes.fills TCA_RATE rfl (fun _ => rfl) fun _ _ => by simp [received]
  | fcnt v =>
    exact .of_arm_at writes_bytes.fills TCA_FCNT rfl (fun _ => rfl) fun _ _ => by simp [received]
  | stats2 l =>
    obtain ⟨out, hout, hread⟩ := exists_readsAs (r := id) (t := TcStats2.nla)
      (fun s hs' _ => TcStats2.roundTrips (h s hs')) hs
    exact .of_arm_at hout TCA_STATS2 rfl (fun _ => rfl) fun _ _ => by
      simp [hread.parseNlas_eq, received]
  | stab v =>
    exact .of_arm_at writes_bytes.fills TCA_STAB rfl (fun _ => rfl) fun _ _ => by simp [received]
  | chain v =>
    exact .of_arm_at writes_u32.fills TCA_CHAIN rfl (fun _ => rfl) fun _ _ => by simp [received]
  | hwOffload v =>
    exact .of_arm_at writes_u8.fills TCA_HW_OFFLOAD rfl (fun _ => rfl) fun _ _ => by
      simp [received]
  | dumpInvisible v =>
    obtain rfl : v = true := h
    exact .of_arm_at writes_skip.fills TCA_DUMP_INVISIBLE rfl (fun _ => rfl) fun _ _ => by
      simp [received]
  | other n =>
    refine .of_default_of (fun _ => h) fun nb hc => ?_
    rw [hc.defaultNla]
    rfl

/-- One turn of the loop reads it back, and hands on the same kind. -/
theorem roundTrips (h : a.Fits kind) (hs : a.nla.valueLen ≤ 65531) :
    RoundTrips (step kind) a.nla (a.nextKind kind, a.received) := by
  obtain ⟨v, hv, hp⟩ := parse_roundTrips h hs
  refine ⟨v, hv, fun nb hc => ?_⟩
  have hparse : parseWithParam nb kind = .ok a.received := hp nb hc
  rw [step, hparse, Outcome.ok_bind, nextKind_received]

/-- The parser gives attributes that fit the kind before them. -/
theorem holds_parse (hv : NlaValid nb.buffer) : (parseWithParam nb kind).Holds (Fits kind) := by
  have hstats2 : ∀ {err err' : String}, (parseNlas err err' (TcStats2.parseWithParam · kind)
      (nlaValue nb.buffer)).Holds fun l => ∀ s ∈ l, s.Fits kind :=
    holds_parseNlas fun _ hnb => TcStats2.holds_parse (valid_of_mem_nlas hnb)
  refine hv.holds_parse ?_ fun _ hk => hk
  simp [-bind_pure_comp, -map_bind, Fits, VecTcOption.holds_parse hv, TcXstats.holds_parse hv,
    hstats2]

/-- A step gives such an attribute and the kind that follows from it. -/
theorem holds_step (hv : NlaValid nb.buffer) : (step kind nb).Holds fun r =>
    r.2.Fits kind ∧ r.1 = r.2.nextKind kind := by
  refine Outcome.holds_bind.2 fun a ha => ?_
  exact (Outcome.holds_ok _).2 ⟨holds_parse hv a ha, rfl⟩

/-- What a step gives is what the parser gives under the same kind. -/
theorem parse_of_step {kind' : String} (h : step kind nb = .ok (kind', a)) :
    parseWithParam nb kind = .ok a := by
  obtain ⟨a', ha', heq⟩ := (Outcome.bind_eq_ok _ _).1 h
  obtain ⟨-, rfl⟩ := Prod.mk.inj (Outcome.ok.inj heq)
  exact ha'

/-- **What is decoded fits the kinds it follows.** -/
theorem threaded_parseAll (h : parseAll payload = .ok as) : Threaded Fits nextKind "" as := by
  refine threaded_of_forEachFrom (fun kind nla hnla => ?_) h
  cases nla with
  | ok nb => exact holds_step (valid_of_mem_nlas hnla)
  | err e => exact Outcome.holds_err _
  | panic => exact Outcome.holds_panic

/-- An attribute that the decoder has a name for is of the kind that was
received. -/
theorem holds_kind (hv : NlaValid nb.buffer) : (parseWithParam nb kind).Holds fun a =>
    (∃ n, a = .other n) ∨ a.kind = wireKind nb := by
  rw [parseWithParam, hv.carries.bind]
  refine select_ind (P := Outcome.Holds fun a : TcAttribute =>
    (∃ n, a = .other n) ∨ a.kind = wireKind nb) (fun arm ha hk => ?_) fun _ => ?_
  · rw [show wireKind nb = arm.1 from hk]
    simp only [List.mem_cons, List.not_mem_nil, or_false] at ha
    rcases ha with rfl | rfl | rfl | rfl | rfl | rfl | rfl | rfl | rfl | rfl | rfl
    all_goals simp [-bind_pure_comp, -map_bind, TcAttribute.kind]
  · simp

/-- The kind is read as text. -/
theorem parse_of_kind (hv : NlaValid nb.buffer) (hk : wireKind nb = TCA_KIND) :
    parseWithParam nb kind = .kind_ <$> (parseString (nlaValue nb.buffer)).context
      "invalid TCA_KIND" := by
  rw [parseWithParam, hv.carries.bind,
    show nlaWord nb.buffer &&& NLA_TYPE_MASK = TCA_KIND from hk]
  rfl

/-- Options are read under the kind before them. -/
theorem parse_of_options (hv : NlaValid nb.buffer) (hk : wireKind nb = TCA_OPTIONS) :
    parseWithParam nb kind = .options <$> (VecTcOption.parseWithParam nb kind).context
      ("Invalid TCA_OPTIONS for kind: " ++ kind) := by
  rw [parseWithParam, hv.carries.bind,
    show nlaWord nb.buffer &&& NLA_TYPE_MASK = TCA_OPTIONS from hk]
  rfl

/-- The kind that the bytes of an attribute leave for those behind it: the
name that a `TCA_KIND` gives, and otherwise the one there was. -/
def kindBehind (kind : String) : Outcome NlaBuffer → String
  | .ok nb =>
    if wireKind nb = TCA_KIND then
      match parseString (nlaValue nb.buffer) with
      | .ok s => s
      | _ => kind
    else kind
  | _ => kind

/-- It is the kind that one turn of the loop hands on. -/
theorem kind_of_step {kind' : String} (hv : NlaValid nb.buffer)
    (h : step kind nb = .ok (kind', a)) : kind' = kindBehind kind (.ok nb) := by
  have hparse := parse_of_step h
  have hnext : kind' = a.nextKind kind := (holds_step hv _ h).2
  by_cases hk : wireKind nb = TCA_KIND
  · rw [kindBehind, if_pos hk]
    rw [parse_of_kind hv hk] at hparse
    obtain ⟨s, hs, rfl⟩ := (Outcome.map_eq_ok _).1 hparse
    rw [(Outcome.context_eq_ok _ _ _).1 hs, hnext]
    rfl
  · rw [kindBehind, if_neg hk, hnext]
    cases a with
    | kind_ s =>
      -- a name is made of `TCA_KIND` only
      obtain ⟨n, hn⟩ | heq := holds_kind hv _ hparse
      · cases hn
      · exact absurd heq.symm hk
    | _ => rfl

end TcAttribute

/-! ## Messages -/

namespace TcMessage

variable {m : TcMessage}

/-- The message comes back: written into a zeroed buffer, it is decoded as
it was. -/
def ComesBack (m : TcMessage) : Prop := ∃ out, Fills (emit m) (bufferLen m) out ∧ decode out = .ok m

/-- Attributes that fit the kinds they follow are read back as received. -/
theorem exists_decode_received (hw : AddressFamily.codec.Canonical m.header.family)
    (ha : Threaded TcAttribute.Fits TcAttribute.nextKind "" m.attributes)
    (hs : format.Sized m) : ∃ out, Fills (emit m) (bufferLen m) out ∧
      decode out = .ok ⟨m.header, m.attributes.map TcAttribute.received⟩ := by
  obtain ⟨out, hout, hread⟩ := exists_forEachFrom_emitted (g := TcAttribute.step)
    (t := TcAttribute.nla) (r := TcAttribute.received)
    (fun kind a ha hfits => TcAttribute.roundTrips hfits (hs a ha)) ha hs
  exact format.decode_emitted_as hw ⟨out, hout, hread⟩

/-- So it comes back when all of them are received as they were sent. -/
theorem comesBack_iff_received (hw : AddressFamily.codec.Canonical m.header.family)
    (ha : Threaded TcAttribute.Fits TcAttribute.nextKind "" m.attributes) (hs : format.Sized m) :
    ComesBack m ↔ ∀ a ∈ m.attributes, a.received = a := by
  obtain ⟨out, hout, hdec⟩ := exists_decode_received hw ha hs
  constructor
  · rintro ⟨out', hout', hdec'⟩
    -- what is written into a zeroed buffer is determined
    have heq : out' = out := Outcome.ok.inj (hout'.symm.trans hout)
    rw [heq, hdec] at hdec'
    have hattrs := congrArg Message.attributes (Outcome.ok.inj hdec')
    exact List.map_inj_left.1 (hattrs.trans (List.map_id' _).symm)
  · intro h
    refine ⟨out, hout, ?_⟩
    rw [hdec, List.map_congr_left h, List.map_id']

/-! ## Sent again -/

/-- What is decoded has a canonical family and attributes that fit. -/
theorem decode_fits (h : decode b = .ok m) : AddressFamily.codec.Canonical m.header.family ∧
    Threaded TcAttribute.Fits TcAttribute.nextKind "" m.attributes := by
  obtain ⟨-, -, hw, hp⟩ := format.decode_eq_ok h
  exact ⟨hw, TcAttribute.threaded_parseAll hp⟩

/-- What the loop got to, it made one of the attributes of. -/
theorem exists_parsed {kind : String} (h : decode b = .ok m) (hr : AttributeReached b kind nb) :
    ∃ a ∈ m.attributes, TcAttribute.parseWithParam nb kind = .ok a := by
  obtain ⟨-, -, -, hp⟩ := format.decode_eq_ok h
  obtain ⟨kind', a, ha, hmem⟩ := exists_of_reachedFrom hr hp
  exact ⟨a, hmem, TcAttribute.parse_of_step ha⟩

/-- And it made each attribute of one that it got to. -/
theorem exists_reached {a : TcAttribute} (h : decode b = .ok m) (ha : a ∈ m.attributes) :
    ∃ kind nb, AttributeReached b kind nb ∧ TcAttribute.parseWithParam nb kind = .ok a := by
  obtain ⟨-, -, -, hp⟩ := format.decode_eq_ok h
  obtain ⟨kind, nla, kind', hr, hstep⟩ := exists_reachedFrom_of_mem hp ha
  cases nla with
  | ok nb => exact ⟨kind, nb, hr, TcAttribute.parse_of_step hstep⟩
  | err e => cases hstep
  | panic => cases hstep

/-- These bytes hold an attribute, and the names in front of it leave this
kind. -/
def StandsBehind (b : Bytes) (kind : String) (nb : NlaBuffer) : Prop :=
  ∃ pre post, nlas (b.drop 20) = pre ++ .ok nb :: post ∧ kind = pre.foldl TcAttribute.kindBehind ""

/-- Of a message that was decoded, the loop got to all attributes. -/
theorem reached_iff (h : decode b = .ok m) :
    AttributeReached b kind nb ↔ StandsBehind b kind nb := by
  obtain ⟨-, -, -, hp⟩ := format.decode_eq_ok h
  refine reachedFrom_iff_of_ok (fun kind kind' a nla hnla hstep => ?_) hp
  cases nla with
  | ok nb => exact TcAttribute.kind_of_step (valid_of_mem_nlas hnla) hstep
  | err e => cases hstep
  | panic => cases hstep

/-- **A decoded message survives being sent again exactly when each
`TCA_OPTIONS` that it was decoded from stands behind the name of a kind
whose options are a list.** -/
theorem comesBack_iff_listed (b : Bytes) (m : TcMessage) (h : decode b = .ok m)
    (hs : format.Sized m) : ComesBack m ↔ ∀ kind nb, StandsBehind b kind nb →
      wireKind nb = TCA_OPTIONS → kind ∈ VecTcOption.listKinds := by
  obtain ⟨hw, hfits⟩ := decode_fits h
  rw [comesBack_iff_received hw hfits hs]
  constructor
  · intro hall kind nb hb hoptions
    by_contra hk
    -- an attribute that stands there was parsed, and its options as bytes
    have hr := (reached_iff h).2 hb
    obtain ⟨a, ha, hparse⟩ := exists_parsed h hr
    rw [TcAttribute.parse_of_options hr.valid hoptions, VecTcOption.parseWithParam, if_neg hk,
      hr.valid.carries.defaultNla] at hparse
    cases hparse
    exact VecTcOption.received_ne (TcAttribute.options.inj (hall _ ha))
  · intro hlisted a ha
    obtain ⟨kind, nb, hr, hparse⟩ := exists_reached h ha
    have hfit := TcAttribute.holds_parse hr.valid a hparse
    cases a with
    | options opts =>
      obtain ⟨n, hn⟩ | heq := TcAttribute.holds_kind hr.valid _ hparse
      · cases hn
      · have hk := hlisted kind nb ((reached_iff h).1 hr) heq.symm
        exact congrArg TcAttribute.options (VecTcOption.received_of_listed hk hfit)
    | _ => rfl

/-! ## Built and sent -/

/-- The family is canonical, each attribute fits the kind that it follows,
and options follow a kind whose options are a list. -/
def WellFormed (m : TcMessage) : Prop :=
  AddressFamily.codec.Canonical m.header.family ∧
    Threaded (fun kind a => TcAttribute.Fits kind a ∧
      ∀ opts, a = .options opts → kind ∈ VecTcOption.listKinds)
      TcAttribute.nextKind "" m.attributes

/-- **A well-formed message comes back.** -/
theorem decode_emit_of_wellFormed (m : TcMessage) (hw : WellFormed m) (hs : format.Sized m) :
    ComesBack m := by
  obtain ⟨hfamily, hattrs⟩ := hw
  obtain ⟨out, hout, hread⟩ := exists_forEachFrom_emitted (g := TcAttribute.step)
    (t := TcAttribute.nla) (r := id) (fun kind a ha ⟨hfits, hlisted⟩ => by
      have hreceived : a.received = a := by
        cases a with
        | options opts =>
          exact congrArg TcAttribute.options
            (VecTcOption.received_of_listed (hlisted opts rfl) hfits)
        | _ => rfl
      have hrt := TcAttribute.roundTrips hfits (hs a ha)
      rwa [hreceived] at hrt) hattrs hs
  rw [List.map_id] at hread
  exact format.decode_emitted hfamily ⟨out, hout, hread⟩

/-! ## What was there before -/

/-- The padding of the header stays what it was. -/
theorem not_uniform_emit : ¬ Uniform (emit m) (bufferLen m) := by
  refine format.not_uniform_emit (i := 1) (by simp [format, TcHeader.codec]) ?_
  simp [format, TcHeader.codec]

end TcMessage

/-- And that of the header of a message about actions. -/
theorem TcActionMessage.not_uniform_emit {m : TcActionMessage} :
    ¬ Uniform (emit m) (bufferLen m) := by
  refine format.not_uniform_emit (i := 1) (by simp [format, TcActionMessageHeader.codec]) ?_
  simp [format, TcActionMessageHeader.codec]

end

/-! ## On a little-endian host -/

section Messages

attribute [local instance] Reference.little

namespace TcMessage

/-- A discipline of kind `htb` with options, behind options that stand in
front of any name. -/
def htbBytes : Bytes :=
  zeros 20 ++ [8, 0, 2, 0, 1, 2, 3, 4] ++ [8, 0, 1, 0, 104, 116, 98, 0] ++
    [8, 0, 2, 0, 5, 6, 7, 8]

/-- What is decoded of it. -/
def htb : TcMessage :=
  ⟨⟨.unspec, 0, ⟨0, 0⟩, ⟨0, 0⟩, 0⟩,
    [.options [.other ⟨TCA_OPTIONS, [1, 2, 3, 4]⟩], .kind_ "htb",
      .options [.other ⟨TCA_OPTIONS, [5, 6, 7, 8]⟩]]⟩

theorem decode_htb : decode htbBytes = .ok htb := rfl

/-- It is not the message that was received. -/
theorem htb_not_comesBack : decode htbBytes = .ok htb ∧ format.Sized htb ∧ ¬ ComesBack htb := by
  have hs : ∀ a ∈ htb.attributes, a.valueLen ≤ 65531 := by decide
  obtain ⟨hw, hfits⟩ := decode_fits decode_htb
  refine ⟨decode_htb, hs, fun h => ?_⟩
  have hall := (comesBack_iff_received hw hfits hs).1 h
  have hopts := hall (.options [.other ⟨TCA_OPTIONS, [1, 2, 3, 4]⟩]) (.head _)
  exact VecTcOption.received_ne (TcAttribute.options.inj hopts)

/-- A discipline of kind `fq_codel` with a limit. -/
def limitBytes : Bytes :=
  zeros 20 ++ [13, 0, 1, 0, 102, 113, 95, 99, 111, 100, 101, 108, 0, 0, 0, 0] ++
    [12, 0, 2, 0, 8, 0, 2, 0, 16, 39, 0, 0]

/-- What is decoded of it. -/
def limit : TcMessage :=
  ⟨⟨.unspec, 0, ⟨0, 0⟩, ⟨0, 0⟩, 0⟩, [.kind_ "fq_codel", .options [.fqCodel (.limit 10000)]]⟩

theorem decode_limit : decode limitBytes = .ok limit := rfl

theorem limit_comesBack_iff : decode limitBytes = .ok limit ∧ format.Sized limit ∧
    (ComesBack limit ↔ ∀ kind nb, StandsBehind limitBytes kind nb →
      wireKind nb = TCA_OPTIONS → kind ∈ VecTcOption.listKinds) := by
  have hs : ∀ a ∈ limit.attributes, a.valueLen ≤ 65531 := by decide
  exact ⟨decode_limit, hs, comesBack_iff_listed limitBytes limit decode_limit hs⟩

/-- A filter of kind `u32` with a selector that counts its one key. -/
def selector : TcMessage :=
  ⟨⟨.inet, 3, ⟨0, 0⟩, ⟨1, 0⟩, 0⟩,
    [.kind_ "u32",
      .options [.u32 (.classId ⟨1, 1⟩),
        .u32 (.selector ⟨1, 0, 1, 0, 0, 0, 0, 0, [⟨255, 6, 8, 0⟩]⟩)]]⟩

theorem selector_comesBack : WellFormed selector ∧ format.Sized selector ∧ ComesBack selector := by
  have hk : "u32" ∈ VecTcOption.listKinds := by decide
  have hfits : VecTcOption.Fits "u32" [.u32 (.classId ⟨1, 1⟩),
      .u32 (.selector ⟨1, 0, 1, 0, 0, 0, 0, 0, [⟨255, 6, 8, 0⟩]⟩)] := by
    rw [VecTcOption.Fits, if_pos hk]
    simp [TcOption.Fits, TcFilterU32Option.Canonical, TcU32Selector.WellFormed, TcFilterU32.KIND]
  have hw : WellFormed selector :=
    ⟨rfl, ⟨trivial, by simp⟩, ⟨hfits, fun _ _ => hk⟩, trivial⟩
  have hs : ∀ a ∈ selector.attributes, a.valueLen ≤ 65531 := by decide
  exact ⟨hw, hs, decode_emit_of_wellFormed selector hw hs⟩

end TcMessage

end Messages

end NetlinkRoute
