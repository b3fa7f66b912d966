import NetlinkRoute.Tc.RoundTrip.Action
/-!
# Traffic control — options come back

Options of disciplines and filters of the four kinds that the program
knows come back as they were. A selector comes back when it counts its
keys. The options of any other kind are the attribute itself, which is
written inside another and comes back one level deeper
(`VecTcOption.exists_emitted`).
-/

namespace NetlinkRoute

open PacketUtils Emitter

section

variable [PacketUtils] {nb : NlaBuffer} {kind : String} {payload : Bytes}

/-! ## Disciplines -/

namespace TcQdiscIngressOption

variable {a : TcQdiscIngressOption}

/-- An option of the ingress queue comes back. -/
theorem roundTrips : RoundTrips parse a.nla a := by
  cases a with
  | other n =>
    refine writes_bytes.roundTrips fun nb hc => ?_
    rw [parse, hc.defaultNla]
    rfl

end TcQdiscIngressOption

namespace TcQdiscFqCodelOption

variable {a : TcQdiscFqCodelOption}

/-- The kinds the decoder names. -/
def kinds : List UInt16 :=
  [TCA_FQ_CODEL_TARGET, TCA_FQ_CODEL_LIMIT, TCA_FQ_CODEL_INTERVAL, TCA_FQ_CODEL_ECN,
    TCA_FQ_CODEL_FLOWS, TCA_FQ_CODEL_QUANTUM, TCA_FQ_CODEL_CE_THRESHOLD,
    TCA_FQ_CODEL_DROP_BATCH_SIZE, TCA_FQ_CODEL_MEMORY_LIMIT, TCA_FQ_CODEL_CE_THRESHOLD_SELECTOR,
    TCA_FQ_CODEL_CE_THRESHOLD_MASK]

/-- An unknown attribute is of none of the kinds the decoder names. -/
def Canonical : TcQdiscFqCodelOption → Prop
  | .other n => n.Unknown kinds
  | _ => True

/-- A canonical option of fq_codel comes back. -/
theorem roundTrips (h : a.Canonical) : RoundTrips parse a.nla a := by
  cases a with
  | target v => exact writes_u32.roundTrips_arm TCA_FQ_CODEL_TARGET rfl rfl (by simp)
  | limit v => exact writes_u32.roundTrips_arm TCA_FQ_CODEL_LIMIT rfl rfl (by simp)
  | interval v => exact writes_u32.roundTrips_arm TCA_FQ_CODEL_INTERVAL rfl rfl (by simp)
  | ecn v => exact writes_u32.roundTrips_arm TCA_FQ_CODEL_ECN rfl rfl (by simp)
  | flows v => exact writes_u32.roundTrips_arm TCA_FQ_CODEL_FLOWS rfl rfl (by simp)
  | quantum v => exact writes_u32.roundTrips_arm TCA_FQ_CODEL_QUANTUM rfl rfl (by simp)
  | ceThreshold v => exact writes_u32.roundTrips_arm TCA_FQ_CODEL_CE_THRESHOLD rfl rfl (by simp)
  | dropBatchSize v =>
    exact writes_u32.roundTrips_arm TCA_FQ_CODEL_DROP_BATCH_SIZE rfl rfl (by simp)
  | memoryLimit v => exact writes_u32.roundTrips_arm TCA_FQ_CODEL_MEMORY_LIMIT rfl rfl (by simp)
  | ceThresholdSelector v =>
    exact writes_u8.roundTrips_arm TCA_FQ_CODEL_CE_THRESHOLD_SELECTOR rfl rfl (by simp)
  | ceThresholdMask v =>
    exact writes_u8.roundTrips_arm TCA_FQ_CODEL_CE_THRESHOLD_MASK rfl rfl (by simp)
  | other n => exact .of_default h

/-- Its parser gives canonical options only. -/
theorem holds_parse (hv : NlaValid nb.buffer) : (parse nb).Holds Canonical :=
  hv.holds_parse (by simp [Canonical]) fun _ hk => hk

end TcQdiscFqCodelOption

/-! ## Selectors -/

namespace TcU32Selector

variable {s : TcU32Selector} {keys : List TcU32Key}

/-- The header counts the keys. -/
def WellFormed (s : TcU32Selector) : Prop := s.nkeys.toNat = s.keys.length

/-- The bytes of keys, one after another. -/
def keyBytes (keys : List TcU32Key) : Bytes := keys.flatMap TcU32Key.codec.bytes

/-- The loop that writes the keys, from the `i`-th on. -/
theorem run_emitKeys {pre rest : Bytes} {i : ℕ} (hpre : pre.length = i * 16)
    (hrest : keys.length * 16 ≤ rest.length) :
    (block ((keys.zipIdx i).map emitKey)).run (pre ++ rest) =
      .ok (pre ++ keyBytes keys ++ rest.drop (keys.length * 16)) := by
  induction keys generalizing pre rest i with
  | nil => simp [keyBytes]
  | cons k keys ih =>
    rw [List.length_cons] at hrest
    have hle : (i + 1) * 16 ≤ (pre ++ rest).length := by
      rw [List.length_append]
      omega
    have hslot : (((pre ++ rest).drop (i * 16)).take ((i + 1) * 16 - i * 16)).length =
        TcU32Key.codec.len := by
      show _ = 16
      rw [List.length_take, List.length_drop]
      omega
    -- one key is written into its own sixteen bytes, behind those before it
    have hrun : (emitKey (k, i)).run (pre ++ rest) =
        .ok (pre ++ TcU32Key.codec.bytes k ++ rest.drop 16) := by
      show (onSlice (i * 16) ((i + 1) * 16) (TcU32Key.codec.emit k)).run _ = _
      rw [onSlice_run (by omega) hle, TcU32Key.codec.writes_emit.run_eq _ hslot, Outcome.map_ok,
        ← hpre, List.take_left, List.drop_append, hpre, List.drop_eq_nil_of_le (by omega),
        List.nil_append]
      congr 3
      omega
    have hlen : (pre ++ TcU32Key.codec.bytes k).length = (i + 1) * 16 := by
      rw [List.length_append, StructCodec.length_bytes, hpre]
      exact (Nat.succ_mul i 16).symm
    have hbehind : keys.length * 16 ≤ (rest.drop 16).length := by
      rw [List.length_drop]
      omega
    have hnext := ih hlen hbehind
    rw [List.zipIdx_cons, List.map_cons, block_cons, andThen_run, hrun, Outcome.ok_bind, hnext,
      keyBytes, keyBytes, List.flatMap_cons, List.append_assoc, List.drop_drop, List.length_cons,
      Nat.succ_mul, Nat.add_comm 16, ← List.append_assoc, ← List.append_assoc]

/-- The loop that reads them. -/
theorem forEach_parseKey {pre : Bytes} {i : ℕ} (hpre : pre.length = i * 16) :
    forEach (parseKey (pre ++ keyBytes keys)) (List.range' i keys.length) = .ok keys := by
  induction keys generalizing pre i with
  | nil => rfl
  | cons k keys ih =>
    have hbytes : pre ++ keyBytes (k :: keys) =
        pre ++ TcU32Key.codec.bytes k ++ keyBytes keys := by
      rw [keyBytes, List.flatMap_cons, List.append_assoc]
      rfl
    have hk : (TcU32Key.codec.bytes k).length = 16 := StructCodec.length_bytes _
    -- and read from them, whatever the keys behind it are
    have hkey : parseKey (pre ++ TcU32Key.codec.bytes k ++ keyBytes keys) i = .ok k := by
      have hle : (i + 1) * 16 ≤ (pre ++ TcU32Key.codec.bytes k ++ keyBytes keys).length := by
        rw [List.length_append, List.length_append, hk]
        omega
      obtain ⟨key, hparse, hkey⟩ := exists_parseKey hle
      rw [List.append_assoc, ← hpre, List.drop_left, List.take_left' hk,
        StructCodec.parse_bytes] at hparse
      cases hparse
      exact hkey
    have hlen : (pre ++ TcU32Key.codec.bytes k).length = (i + 1) * 16 := by
      rw [List.length_append, hk]
      omega
    rw [hbytes, List.length_cons, List.range'_succ, forEach_cons, hkey, ih hlen]
    rfl

/-- The header, whatever stands in the byte that no field has. -/
def headBytes (s : TcU32Selector) (pad : UInt8) : Bytes :=
  [s.flags, s.offshift, s.nkeys, pad] ++ (ne.u16 s.offmask ++ (ne.u16 s.off ++
    (ne.u16 s.offoff ++ (ne.u16 s.hoff ++ ne.u32 s.hmask))))

@[simp] theorem length_headBytes {pad : UInt8} : (s.headBytes pad).length = 16 := by
  simp [headBytes]

/-- The header is read from its own bytes. -/
theorem parse_headBytes {pad : UInt8} {rest : Bytes} :
    header.parse (s.headBytes pad ++ rest) = .ok { s with keys := [] } := by
  simp [header, headBytes, getU16_append, getU32_append]

/-- Keys are sixteen bytes each. -/
theorem length_keyBytes : (keyBytes keys).length = keys.length * 16 := by
  induction keys with
  | nil => rfl
  | cons k keys ih =>
    have hk : (TcU32Key.codec.bytes k).length = 16 := StructCodec.length_bytes _
    have hcons : keyBytes (k :: keys) = TcU32Key.codec.bytes k ++ keyBytes keys := rfl
    rw [hcons, List.length_append, hk, ih, List.length_cons, Nat.succ_mul, Nat.add_comm]

/-- A selector is read from its header and its keys. -/
theorem parse_headBytes_append {pad : UInt8} (h : s.WellFormed) :
    parse (s.headBytes pad ++ keyBytes s.keys) = .ok s := by
  have hle : TC_U32_SEL_BUF_LEN ≤ (s.headBytes pad ++ keyBytes s.keys).length := by
    rw [List.length_append, length_headBytes]
    exact Nat.le_add_right _ _
  have hnkeys : getU8 (s.headBytes pad ++ keyBytes s.keys) 2 = .ok s.nkeys := by
    simp [headBytes]
  have hdrop : (s.headBytes pad ++ keyBytes s.keys).drop TC_U32_SEL_BUF_LEN = keyBytes s.keys :=
    List.drop_left' length_headBytes
  have hkeys : forEach (parseKey ([] ++ keyBytes s.keys)) (List.range' 0 s.keys.length) =
      .ok s.keys := forEach_parseKey (Nat.zero_mul 16).symm
  rw [List.nil_append, ← List.range_eq_range'] at hkeys
  rw [parse, hnkeys, Outcome.ok_bind, sliceFrom_ok hle, Outcome.ok_bind, hdrop, h, hkeys,
    Outcome.ok_bind, parse_headBytes]
  rfl

/-- The bytes of a selector. -/
def bytes (s : TcU32Selector) : Bytes := header.bytes s ++ keyBytes s.keys

/-- A well-formed selector is written as its head and its keys. -/
theorem fills_emit (h : s.WellFormed) : Fills s.emit s.bufferLen s.bytes := by
  have hkeys : (block (s.keys.zipIdx.map emitKey)).run ([] ++ zeros (s.keys.length * 16)) =
      .ok ([] ++ keyBytes s.keys ++ (zeros (s.keys.length * 16)).drop (s.keys.length * 16)) :=
    run_emitKeys (Nat.zero_mul 16).symm (Nat.le_of_eq (length_zeros _).symm)
  have hlen : s.bufferLen = header.len + s.keys.length * 16 := by
    rw [bufferLen, h]
    rfl
  have hle : TC_U32_SEL_BUF_LEN ≤ (header.bytes s ++ zeros (s.keys.length * 16)).length := by
    rw [List.length_append, header.length_bytes]
    exact Nat.le_add_right _ _
  have hdrop : (header.bytes s ++ zeros (s.keys.length * 16)).drop TC_U32_SEL_BUF_LEN =
      zeros (s.keys.length * 16) := List.drop_left' header.length_bytes
  have htake : (header.bytes s ++ zeros (s.keys.length * 16)).take TC_U32_SEL_BUF_LEN =
      header.bytes s := List.take_left' header.length_bytes
  rw [List.nil_append, List.nil_append, drop_zeros, Nat.sub_self, zeros_zero, List.append_nil]
    at hkeys
  rw [Fills, emit, andThen_run, hlen, header.run_zeros, Outcome.ok_bind, onTail_run hle, hdrop,
    htake, hkeys]
  rfl

/-- It is read back from them. -/
theorem parse_bytes (h : s.WellFormed) : parse s.bytes = .ok s := by
  have hbytes : s.bytes = s.headBytes 0 ++ keyBytes s.keys := by
    simp [bytes, HeaderCodec.bytes, header, gapped, headBytes, zeros]
  rw [hbytes, parse_headBytes_append h]

/-- **A selector that is read counts its keys.** -/
theorem holds_parse : (parse payload).Holds WellFormed := by
  refine Outcome.holds_bind.2 fun nkeys _ => Outcome.holds_bind.2 fun keyPayload _ =>
    Outcome.holds_bind.2 fun keys hkeys => Outcome.holds_bind.2 fun head _ => ?_
  have hlen := (forEach_eq_ok_iff.1 hkeys).length_eq
  rw [List.length_range] at hlen
  exact (Outcome.holds_ok _).2 hlen

end TcU32Selector

/-! ## Filters -/

/-- A nested list of actions is well formed throughout. -/
theorem holds_parseNlas_actions {err err' : String} :
    (parseNlas err err' TcAction.parse payload).Holds fun l => ∀ act ∈ l, act.WellFormed :=
  holds_parseNlas fun _ hnb => TcAction.holds_parse (valid_of_mem_nlas hnb)

namespace TcFilterU32Option

variable {a : TcFilterU32Option}

/-- The kinds the decoder names. -/
def kinds : List UInt16 :=
  [TCA_U32_CLASSID, TCA_U32_HASH, TCA_U32_LINK, TCA_U32_DIVISOR, TCA_U32_SEL, TCA_U32_POLICE,
    TCA_U32_ACT, TCA_U32_INDEV, TCA_U32_PCNT, TCA_U32_MARK, TCA_U32_FLAGS]

/-- Selectors and actions are well formed, and an unknown attribute is of
none of the kinds the decoder names. -/
def Canonical : TcFilterU32Option → Prop
  | .selector s => s.WellFormed
  | .action l => ∀ act ∈ l, act.WellFormed
  | .other n => n.Unknown kinds
  | _ => True

/-- A canonical option of u32 comes back, its actions within their length
word. -/
theorem roundTrips (h : a.Canonical) (hs : a.valueLen ≤ 65531) : RoundTrips parse a.nla a := by
  cases a with
  | classId v => exact writes_u32.roundTrips_arm TCA_U32_CLASSID rfl rfl (by simp)
  | hash v => exact writes_u32.roundTrips_arm TCA_U32_HASH rfl rfl (by simp)
  | link v => exact writes_u32.roundTrips_arm TCA_U32_LINK rfl rfl (by simp)
  | divisor v => exact writes_u32.roundTrips_arm TCA_U32_DIVISOR rfl rfl (by simp)
  | selector s =>
    have hle : TC_U32_SEL_BUF_LEN ≤ s.bytes.length := by
      rw [TcU32Selector.bytes, List.length_append, HeaderCodec.length_bytes]
      exact Nat.le_add_right _ _
    refine .of_arm (s.fills_emit h) TCA_U32_SEL rfl rfl ?_
    rw [checkedBuffer_of_le hle, Outcome.context_ok, Outcome.ok_bind, s.parse_bytes h]
    rfl
  | police v => exact writes_bytes.roundTrips_arm TCA_U32_POLICE rfl rfl (by simp)
  | action l =>
    obtain ⟨out, hout, hread⟩ := exists_readsAs (r := id) (t := TcAction.nla)
      (fun act hact hs => TcAction.roundTrips (h act hact) hs) hs
    exact .of_arm hout TCA_U32_ACT rfl rfl (by simp [hread.parseNlas_eq])
  | indev v => exact writes_bytes.roundTrips_arm TCA_U32_INDEV rfl rfl (by simp)
  | pnct v => exact writes_bytes.roundTrips_arm TCA_U32_PCNT rfl rfl (by simp)
  | mark v => exact writes_bytes.roundTrips_arm TCA_U32_MARK rfl rfl (by simp)
  | flags v => exact writes_u32.roundTrips_arm TCA_U32_FLAGS rfl rfl (by simp)
  | other n => exact .of_default h

private theorem holds_selector :
    (do
      let buf ← (checkedBuffer "TcU32SelectorBuffer" TC_U32_SEL_BUF_LEN payload).context
        "invalid TCA_U32_SEL"
      (TcU32Selector.parse buf).context "failed to parse TCA_U32_SEL").Holds
      TcU32Selector.WellFormed :=
  Outcome.holds_bind.2 fun _ _ => (Outcome.holds_context _).2 TcU32Selector.holds_parse

/-- The parser of u32 gives canonical options only. -/
theorem holds_parse (hv : NlaValid nb.buffer) : (parse nb).Holds Canonical :=
  hv.holds_parse
    (by simp [-bind_pure_comp, -map_bind, Canonical, holds_selector, holds_parseNlas_actions])
    fun _ hk => hk

end TcFilterU32Option

namespace TcFilterMatchAllOption

variable {a : TcFilterMatchAllOption}

/-- The kinds the decoder names. -/
def kinds : List UInt16 :=
  [TCA_MATCHALL_CLASSID, TCA_MATCHALL_ACT, TCA_MATCHALL_PCNT, TCA_MATCHALL_FLAGS]

/-- Actions are well formed, and an unknown attribute is of none of the
kinds the decoder names. -/
def Canonical : TcFilterMatchAllOption → Prop
  | .action l => ∀ act ∈ l, act.WellFormed
  | .other n => n.Unknown kinds
  | _ => True

/-- A canonical option of matchall comes back, its actions within their
length word. -/
theorem roundTrips (h : a.Canonical) (hs : a.valueLen ≤ 65531) : RoundTrips parse a.nla a := by
  cases a with
  | classId v => exact writes_u32.roundTrips_arm TCA_MATCHALL_CLASSID rfl rfl (by simp)
  | action l =>
    obtain ⟨out, hout, hread⟩ := exists_readsAs (r := id) (t := TcAction.nla)
      (fun act hact hs => TcAction.roundTrips (h act hact) hs) hs
    exact .of_arm hout TCA_MATCHALL_ACT rfl rfl (by simp [hread.parseNlas_eq])
  | pnct v => exact writes_bytes.roundTrips_arm TCA_MATCHALL_PCNT rfl rfl (by simp)
  | flags v => exact writes_u32.roundTrips_arm TCA_MATCHALL_FLAGS rfl rfl (by simp)
  | other n => exact .of_default h

/-- The parser of matchall gives canonical options only. -/
theorem holds_parse (hv : NlaValid nb.buffer) : (parse nb).Holds Canonical :=
  hv.holds_parse (by simp [Canonical, holds_parseNlas_actions]) fun _ hk => hk

end TcFilterMatchAllOption

/-! ## Options of all kinds -/

namespace TcOption

variable {a : TcOption}

/-- The variant is the one that the kind selects. -/
def Fits (kind : String) : TcOption → Prop
  | .fqCodel v => kind = TcQdiscFqCodel.KIND ∧ v.Canonical
  | .ingress _ => kind = TcQdiscIngress.KIND
  | .u32 v => kind = TcFilterU32.KIND ∧ v.Canonical
  | .matchAll v => kind = TcFilterMatchAll.KIND ∧ v.Canonical
  | .other _ => kind ∉ VecTcOption.listKinds

/-- An option that fits the kind comes back under it. -/
theorem roundTrips (h : a.Fits kind) (hs : a.nla.valueLen ≤ 65531) :
    RoundTrips (parseWithParam · kind) a.nla a := by
  cases a with
  | fqCodel v =>
    obtain ⟨rfl, hv⟩ := h
    obtain ⟨out, hout, hp⟩ := v.roundTrips hv
    exact ⟨out, hout, fun nb hc => (select_of_find rfl).trans (by rw [hp nb hc]; rfl)⟩
  | ingress v =>
    obtain rfl := h
    obtain ⟨out, hout, hp⟩ := TcQdiscIngressOption.roundTrips (a := v)
    exact ⟨out, hout, fun nb hc => (select_of_find rfl).trans (by rw [hp nb hc]; rfl)⟩
  | u32 v =>
    obtain ⟨rfl, hv⟩ := h
    obtain ⟨out, hout, hp⟩ := v.roundTrips hv hs
    exact ⟨out, hout, fun nb hc => (select_of_find rfl).trans (by rw [hp nb hc]; rfl)⟩
  | matchAll v =>
    obtain ⟨rfl, hv⟩ := h
    obtain ⟨out, hout, hp⟩ := v.roundTrips hv hs
    exact ⟨out, hout, fun nb hc => (select_of_find rfl).trans (by rw [hp nb hc]; rfl)⟩
  | other n =>
    have hk : kind ∉ [TcFilterU32.KIND, TcFilterMatchAll.KIND, TcQdiscIngress.KIND,
      TcQdiscFqCodel.KIND] := h
    -- the kind is none of the four, so that the options are kept as bytes
    simp only [List.mem_cons, List.not_mem_nil, or_false, not_or] at hk
    obtain ⟨hu32, hmatchall, hingress, hcodel⟩ := hk
    refine writes_bytes.roundTrips fun nb hc => ?_
    rw [parseWithParam, select_default (by simp [hu32, hmatchall, hingress, hcodel]),
      hc.defaultNla]
    rfl

/-- Under a kind with a list of its own, every option that is parsed fits
the kind. -/
theorem holds_parse (hv : NlaValid nb.buffer) (hk : kind ∈ VecTcOption.listKinds) :
    (parseWithParam nb kind).Holds (Fits kind) := by
  refine select_ind (P := Outcome.Holds (Fits kind)) (fun arm ha harm => ?_) fun hd => ?_
  · simp only [List.mem_cons, List.not_mem_nil, or_false] at ha
    rcases ha with rfl | rfl | rfl | rfl
    · rw [Outcome.holds_map]
      exact fun _ _ => harm
    · rw [Outcome.holds_map, Outcome.holds_context]
      exact (TcQdiscFqCodelOption.holds_parse hv).mono fun _ hc => ⟨harm, hc⟩
    · rw [Outcome.holds_map, Outcome.holds_context]
      exact (TcFilterU32Option.holds_parse hv).mono fun _ hc => ⟨harm, hc⟩
    · rw [Outcome.holds_map, Outcome.holds_context]
      exact (TcFilterMatchAllOption.holds_parse hv).mono fun _ hc => ⟨harm, hc⟩
  · -- one of the four kinds has an arm
    simp only [VecTcOption.listKinds, List.mem_cons, List.not_mem_nil, or_false] at hk
    simp only [List.map_cons, List.map_nil, List.mem_cons, List.not_mem_nil, or_false] at hd
    tauto

end TcOption

namespace VecTcOption

variable {opts : List TcOption}

/-- The options of a kind that is known are of its variant; those of any
other are one attribute. -/
def Fits (kind : String) (opts : List TcOption) : Prop :=
  if kind ∈ listKinds then ∀ o ∈ opts, o.Fits kind else ∃ d, opts = [.other d]

/-- What comes back of options: an attribute that was kept as it is stands
inside another now. -/
def received : List TcOption → List TcOption
  | [.other d] => [.other ⟨TCA_OPTIONS, encodeNla d.kind d.value⟩]
  | opts => opts

/-- Under such a kind, options are received as they are. -/
theorem received_of_listed (hk : kind ∈ listKinds) (h : Fits kind opts) :
    received opts = opts := by
  rw [Fits, if_pos hk] at h
  unfold received
  split
  · next d => exact absurd hk (h (.other d) (by simp))
  · rfl

/-- The attribute comes back longer than it was. -/
theorem received_ne {d : DefaultNla} : received [.other d] ≠ [.other d] := by
  intro h
  have hd : (⟨TCA_OPTIONS, encodeNla d.kind d.value⟩ : DefaultNla) = d := by
    simpa [received] using h
  have hlen := congrArg (fun n : DefaultNla => n.value.length) hd
  have hal := le_nlaAlign d.value.length
  rw [length_encodeNla] at hlen
  omega

/-- **Options are read back as they are received.** -/
theorem exists_emitted (h : Fits kind opts) (hs : nlasLen (opts.map TcOption.nla) ≤ 65531) :
    ∃ out, Fills (emitNlas (opts.map TcOption.nla)) (nlasLen (opts.map TcOption.nla)) out ∧
      ∀ nb, Carries nb TCA_OPTIONS out → parseWithParam nb kind = .ok (received opts) := by
  by_cases hk : kind ∈ listKinds
  · rw [received_of_listed hk h]
    rw [Fits, if_pos hk] at h
    obtain ⟨out, hout, hread⟩ := exists_readsAs (r := id) (t := TcOption.nla)
      (fun o ho hs => TcOption.roundTrips (h o ho) hs) hs
    refine ⟨out, hout, fun nb hc => ?_⟩
    rw [parseWithParam, if_pos hk, hc.value, Outcome.ok_bind, hread.parseNlas_eq, List.map_id]
  · rw [Fits, if_neg hk] at h
    obtain ⟨d, rfl⟩ := h
    have hd : (TcOption.nla (.other d)).Payload d.value := (writes_copy rfl).fills
    have hle : (TcOption.nla (.other d)).valueLen ≤ 65531 := valueLen_le_of_mem hs (by simp)
    refine ⟨encodeNla d.kind d.value ++ [], fills_emitNlas_cons hd hle emitNlas_nil,
      fun nb hc => ?_⟩
    rw [List.append_nil] at hc
    rw [parseWithParam, if_neg hk, hc.defaultNla]
    rfl

/-- Options fit the kind they are parsed under. -/
theorem holds_parse (hv : NlaValid nb.buffer) : (parseWithParam nb kind).Holds (Fits kind) := by
  unfold parseWithParam Fits
  by_cases hk : kind ∈ listKinds
  · simp only [if_pos hk, hv.carries.value, Outcome.ok_bind]
    exact holds_parseNlas fun _ hnb => TcOption.holds_parse (valid_of_mem_nlas hnb) hk
  · simp only [if_neg hk, hv.carries.defaultNla, Outcome.ok_bind]
    exact (Outcome.holds_ok _).2 ⟨_, rfl⟩

end VecTcOption

end

end NetlinkRoute
