import NetlinkRoute.Tc.Model.Message
import NetlinkRoute.Common.Reference
/-!
# Traffic control — when decoding panics

Four kinds of statistics are read through buffers that nobody checked:
`TcStats2` reads its two structures so, and the statistics of `fq_codel`
theirs. Which of them a payload is read as, the kind of the discipline or
of the action decides, so `Short` is a predicate on a kind and an
attribute. The defect is followed outwards through the lists it can stand
in, up to the messages (`TcMessage.decode_eq_panic_iff`,
`TcActionMessage.decode_eq_panic_iff`). The keys of a selector are the
only other place that panics, and are followed beside it.
-/

namespace NetlinkRoute

open PacketUtils Emitter

section

variable [PacketUtils] {nb : NlaBuffer} {kind : String} {payload b : Bytes}

/-! ## Structures that are not checked -/

/-- Basic statistics panic on a payload below twelve bytes. -/
theorem TcStatsBasic.parse_eq_panic_iff :
    TcStatsBasic.codec.parse payload = .panic ↔ payload.length < 12 := by
  constructor
  · intro h
    by_contra hlen
    have hle : 12 ≤ payload.length := by omega
    simp (disch := omega) [TcStatsBasic.codec, getU64_of_le, getU32_of_le] at h
  · intro h
    refine Outcome.bind_eq_panic_of _ _ getU64_ne_err fun _ => ?_
    rw [getU32_of_lt h, Outcome.panic_bind]

/-- Statistics of a queue panic below twenty. -/
theorem TcStatsQueue.parse_eq_panic_iff :
    TcStatsQueue.codec.parse payload = .panic ↔ payload.length < 20 := by
  refine TcStatsQueue.codec.parse_eq_panic_iff_of_short fun h => ?_
  iterate 4 refine Outcome.bind_eq_panic_of _ _ getU32_ne_err fun _ => ?_
  rw [getU32_of_lt h, Outcome.panic_bind]

/-- Statistics of the fq_codel queue panic below 36, those of its classes
below 24. -/
theorem TcFqCodelQdStats.parse_eq_panic_iff :
    TcFqCodelQdStats.codec.parse payload = .panic ↔ payload.length < 36 := by
  refine TcFqCodelQdStats.codec.parse_eq_panic_iff_of_short fun h => ?_
  iterate 8 refine Outcome.bind_eq_panic_of _ _ getU32_ne_err fun _ => ?_
  rw [getU32_of_lt h, Outcome.panic_bind]

theorem TcFqCodelClStats.parse_eq_panic_iff :
    TcFqCodelClStats.codec.parse payload = .panic ↔ payload.length < 24 := by
  refine TcFqCodelClStats.codec.parse_eq_panic_iff_of_short fun h => ?_
  refine Outcome.bind_eq_panic_of _ _ getI32_ne_err fun _ => ?_
  iterate 4 refine Outcome.bind_eq_panic_of _ _ getU32_ne_err fun _ => ?_
  rw [getI32_of_lt h, Outcome.panic_bind]

/-! ## Statistics -/

/-- The word the statistics of `fq_codel` start with. -/
abbrev TcFqCodelXstats.word (payload : Bytes) : UInt32 := ne.toU32 (payload.take 4)

/-- The first word announces a structure that there is no room for. -/
def TcFqCodelXstats.Short (payload : Bytes) : Prop :=
  4 ≤ payload.length ∧
    (word payload = TCA_FQ_CODEL_XSTATS_QDISC ∧ payload.length < 40 ∨
      word payload = TCA_FQ_CODEL_XSTATS_CLASS ∧ payload.length < 28)

/-- Behind the word that tells them apart, both panic where they are short. -/
theorem TcFqCodelXstats.parse_eq_panic_iff :
    TcFqCodelXstats.parse payload = .panic ↔ Short payload := by
  unfold TcFqCodelXstats.parse Short
  by_cases hlen : payload.length < 4
  · rw [if_pos hlen]
    simp only [Outcome.fail_ne_panic, false_iff]
    omega
  · have hle : 4 ≤ payload.length := by omega
    have hqdisc : payload.length - 4 < 36 ↔ payload.length < 40 := by omega
    have hclass : payload.length - 4 < 24 ↔ payload.length < 28 := by omega
    rw [if_neg hlen, slice_ok (by omega) hle, Outcome.ok_bind, sliceFrom_ok hle,
      select_eq_panic_iff (by simp only [List.map]; decide) (by simp)]
    simp [TcFqCodelQdStats.parse_eq_panic_iff, TcFqCodelClStats.parse_eq_panic_iff, hle, hqdisc,
      hclass]

/-- Statistics of a discipline are only looked into for `fq_codel`. -/
def TcXstats.Short (kind : String) (nb : NlaBuffer) : Prop :=
  kind = TcQdiscFqCodel.KIND ∧ TcFqCodelXstats.Short (nlaValue nb.buffer)

/-- Statistics of an application panic under the kind that types them. -/
theorem TcXstats.parse_eq_panic_iff (hv : NlaValid nb.buffer) :
    TcXstats.parseWithParam nb kind = .panic ↔ Short kind nb := by
  unfold TcXstats.parseWithParam Short
  rw [value_of_valid hv]
  by_cases hk : kind = TcQdiscFqCodel.KIND
  · simp [hk, TcFqCodelXstats.parse_eq_panic_iff]
  · simp [hk]

/-- A payload is shorter than the structure that its kind announces. -/
def TcStats2.Short (kind : String) (nb : NlaBuffer) : Prop :=
  wireKind nb = TCA_STATS_APP ∧ TcXstats.Short kind nb ∨
    wireKind nb = TCA_STATS_BASIC ∧ (nlaValue nb.buffer).length < 12 ∨
    wireKind nb = TCA_STATS_QUEUE ∧ (nlaValue nb.buffer).length < 20 ∨
    wireKind nb = TCA_STATS_BASIC_HW ∧ (nlaValue nb.buffer).length < 12

/-- A nested statistic panics exactly where it is short for its structure. -/
theorem TcStats2.parse_eq_panic_iff (hv : NlaValid nb.buffer) :
    TcStats2.parseWithParam nb kind = .panic ↔ Short kind nb := by
  refine (hv.parse_eq_panic_iff_of (by simp only [List.map]; decide)
    (by simp [hv.carries.defaultNla])).trans ?_
  simp [Short, TcXstats.parse_eq_panic_iff hv,
    TcStatsBasic.parse_eq_panic_iff, TcStatsQueue.parse_eq_panic_iff]

/-- The loop over a list of statistics gets to one that is too short. -/
def TcStats2.ShortIn (kind : String) (payload : Bytes) : Prop :=
  ∃ nb, NlaReached (TcStats2.parseWithParam · kind) payload nb ∧ Short kind nb

/-- The list of them panics where the loop reaches such a one. -/
theorem TcStats2.parseNlas_eq_panic_iff {err err' : String} :
    parseNlas err err' (TcStats2.parseWithParam · kind) payload = .panic ↔
      ShortIn kind payload := by
  rw [NetlinkRoute.parseNlas_eq_panic_iff]
  exact exists_congr fun nb => and_congr_right fun hr =>
    TcStats2.parse_eq_panic_iff (valid_of_mem_nlas hr.mem)

/-! ## Actions -/

/-- A structure that is read through its checked buffer. -/
theorem HeaderCodec.parse_checked_ne_panic {η : Type} {c : HeaderCodec η} {name : String}
    {buf : Bytes} (h : checkedBuffer name c.len payload = .ok buf) : c.parse buf ≠ .panic := by
  obtain ⟨hle, rfl⟩ := checkedBuffer_eq_ok_iff.1 h
  obtain ⟨v, hv, -⟩ := c.parse_of_le payload hle
  simp [hv]

/-- A struct behind a checked buffer is never read out of bounds. -/
theorem HeaderCodec.bind_checked_ne_panic {η : Type} {c : HeaderCodec η} {name : String} :
    (do c.parse (← checkedBuffer name c.len payload)) ≠ .panic := by
  intro h
  rcases (Outcome.bind_eq_panic _ _).1 h with h | ⟨buf, hbuf, h⟩
  · exact checkedBuffer_ne_panic h
  · exact c.parse_checked_ne_panic hbuf h

/-- The options of an action are read through checked buffers. -/
theorem TcActionMirrorOption.parse_ne_panic (hv : NlaValid nb.buffer) :
    TcActionMirrorOption.parse nb ≠ .panic := by
  rw [Ne, TcActionMirrorOption.parse, hv.parse_eq_panic_iff_of (by simp only [List.map]; decide)
    (by simp [hv.carries.defaultNla])]
  simp [-map_bind, HeaderCodec.bind_checked_ne_panic]

theorem TcActionNatOption.parse_ne_panic (hv : NlaValid nb.buffer) :
    TcActionNatOption.parse nb ≠ .panic := by
  rw [Ne, TcActionNatOption.parse, hv.parse_eq_panic_iff_of (by simp only [List.map]; decide)
    (by simp [hv.carries.defaultNla])]
  simp [-map_bind, HeaderCodec.bind_checked_ne_panic]

/-- Options of actions are checked, whatever the kind. -/
theorem TcActionOption.parse_ne_panic (hv : NlaValid nb.buffer) :
    TcActionOption.parseWithParam nb kind ≠ .panic := by
  refine select_ne_panic (fun arm ha _ => ?_) (by simp [hv.carries.defaultNla])
  simp only [List.mem_cons, List.not_mem_nil, or_false] at ha
  rcases ha with rfl | rfl
  · simp [TcActionMirrorOption.parse_ne_panic hv]
  · simp [TcActionNatOption.parse_ne_panic hv]

namespace TcActionAttribute

/-- The statistics of an action are read with its kind. -/
def Short (kind : String) (nb : NlaBuffer) : Prop :=
  wireKind nb = TCA_ACT_STATS ∧ TcStats2.ShortIn kind (nlaValue nb.buffer)

/-- An attribute of an action panics exactly in its statistics. -/
theorem parse_eq_panic_iff (hv : NlaValid nb.buffer) :
    parseWithParam nb kind = .panic ↔ Short kind nb := by
  have hoptions : ∀ {err err' : String} {payload : Bytes},
      parseNlas err err' (TcActionOption.parseWithParam · kind) payload ≠ .panic :=
    parseNlas_ne_panic fun nb hnb => TcActionOption.parse_ne_panic (valid_of_mem_nlas hnb)
  refine (hv.parse_eq_panic_iff (by simp only [List.map]; decide)).trans ?_
  simp [Short, hoptions, TcStats2.parseNlas_eq_panic_iff]

end TcActionAttribute

namespace TcAction

/-- The search for the kind of an action does not panic. -/
theorem parseKind_ne_panic {nla : Outcome NlaBuffer} (h : nla ∈ nlas payload) :
    parseKind nla ≠ .panic := by
  cases nla with
  | panic => exact absurd h panic_not_mem_nlas
  | err e => simp [parseKind]
  | ok nb =>
    have hc := (valid_of_mem_nlas h).carries
    rw [parseKind, Outcome.context_ok, Outcome.ok_bind, hc.kind, Outcome.ok_bind]
    split
    · rw [hc.value, Outcome.ok_bind]
      simp
    · simp

/-- The search for the kind finds it, or fails. -/
theorem findKind_ne_panic : findKind payload ≠ .panic := by
  have hloop : List.flatten <$> forEach parseKind (nlas payload) ≠ .panic := by
    rw [Ne, Outcome.map_eq_panic]
    exact forEach_ne_panic fun _ => parseKind_ne_panic
  unfold findKind
  split
  · simp
  · simp
  · simp
  · simp
  · next h => exact absurd h hloop

/-- With the kind that the action has, the loop over its attributes gets to
statistics that are too short. -/
def Short (nb : NlaBuffer) : Prop :=
  ∃ kind attr, findKind (nlaValue nb.buffer) = .ok kind ∧
    NlaReached (TcActionAttribute.parseWithParam · kind) (nlaValue nb.buffer) attr ∧
    TcActionAttribute.Short kind attr

/-- An action panics exactly where its own kind leads to short statistics. -/
theorem parse_eq_panic_iff (hv : NlaValid nb.buffer) : parse nb = .panic ↔ Short nb := by
  unfold parse Short
  rw [hv.carries.value, Outcome.ok_bind, Outcome.bind_eq_panic]
  simp only [findKind_ne_panic, false_or, Outcome.ok_bind, hv.carries.kind, Outcome.bind_eq_panic,
    Outcome.pure_eq, reduceCtorEq, and_false, exists_false, or_false, parseEach_eq_panic_iff]
  refine exists_congr fun kind => ⟨?_, ?_⟩
  · rintro ⟨hk, attr, hr, hp⟩
    exact ⟨attr, hk, hr,
      (TcActionAttribute.parse_eq_panic_iff (valid_of_mem_nlas hr.mem)).1 hp⟩
  · rintro ⟨attr, hk, hr, hs⟩
    exact ⟨hk, attr, hr,
      (TcActionAttribute.parse_eq_panic_iff (valid_of_mem_nlas hr.mem)).2 hs⟩

/-- The loop over a list of actions gets to one with such statistics. -/
def ShortIn (payload : Bytes) : Prop := ∃ nb, NlaReached parse payload nb ∧ Short nb

/-- The loop over actions panics exactly at such an action. -/
theorem exists_reached_panic_iff :
    (∃ nb, NlaReached parse payload nb ∧ parse nb = .panic) ↔ ShortIn payload :=
  exists_congr fun _ => and_congr_right fun hr => parse_eq_panic_iff (valid_of_mem_nlas hr.mem)

end TcAction

/-! ## Options -/

namespace TcU32Selector

/-- The header counts more keys than there is room for. -/
def Short (payload : Bytes) : Prop :=
  16 ≤ payload.length ∧ payload.length < 16 + (payload.getD 2 0).toNat * 16

/-- A key panics where its sixteen bytes are not all there. -/
theorem parseKey_eq_panic_iff {keys : Bytes} {i : ℕ} :
    parseKey keys i = .panic ↔ keys.length < (i + 1) * 16 := by
  rcases Nat.lt_or_ge keys.length ((i + 1) * 16) with h | h
  · refine iff_of_true ?_ h
    rw [parseKey, slice_panic h, Outcome.panic_bind]
  · obtain ⟨key, -, hkey⟩ := exists_parseKey h
    refine iff_of_false (by simp [hkey]) (by omega)

/-- The loop over the keys panics where there is no room for the last. -/
theorem forEach_parseKey_eq_panic_iff {keys : Bytes} {n : ℕ} :
    forEach (parseKey keys) (List.range n) = .panic ↔ keys.length < n * 16 := by
  constructor
  · intro h
    obtain ⟨i, hi, hp⟩ := forEach_eq_panic_iff.1 h
    have hlt := List.mem_range.1 hi.mem
    have hle : (i + 1) * 16 ≤ n * 16 := Nat.mul_le_mul_right 16 hlt
    rw [parseKey_eq_panic_iff] at hp
    omega
  · intro h
    -- the first key that there is no room for
    obtain ⟨d, rfl⟩ : ∃ d, n = keys.length / 16 + 1 + d :=
      ⟨n - (keys.length / 16 + 1), by omega⟩
    refine forEach_eq_panic_iff.2 ⟨keys.length / 16, ⟨List.range (keys.length / 16),
      (List.range d).map (keys.length / 16 + 1 + ·), ?_, fun k hk => ?_⟩,
      parseKey_eq_panic_iff.2 (by omega)⟩
    · rw [List.range_add, List.range_succ, List.append_assoc]
      rfl
    · have hk := List.mem_range.1 hk
      have hle : (k + 1) * 16 ≤ keys.length := by omega
      obtain ⟨key, -, hkey⟩ := exists_parseKey hle
      exact ⟨key, hkey⟩

/-- **A selector that was checked panics where its keys do not fit.** -/
theorem parse_eq_panic_iff (h : 16 ≤ payload.length) :
    parse payload = .panic ↔ Short payload := by
  obtain ⟨head, hhead, -⟩ := header.parse_of_le payload h
  rw [parse, getU8_of_lt (by omega), Outcome.ok_bind, sliceFrom_ok h, Outcome.ok_bind,
    Outcome.bind_eq_panic, forEach_parseKey_eq_panic_iff, List.length_drop]
  simp only [hhead, Outcome.ok_bind, Outcome.pure_eq, reduceCtorEq, and_false, exists_false,
    or_false, Short, h, true_and]
  rw [List.getD_eq_getElem?_getD, List.getElem?_eq_getElem (by omega), Option.getD_some]
  omega

end TcU32Selector

namespace TcFilterU32Option

/-- Among the actions of the filter is one whose statistics are too short. -/
def Short (nb : NlaBuffer) : Prop :=
  wireKind nb = TCA_U32_ACT ∧ TcAction.ShortIn (nlaValue nb.buffer)

/-- The keys of the selector do not fit. -/
def ShortSelector (nb : NlaBuffer) : Prop :=
  wireKind nb = TCA_U32_SEL ∧ TcU32Selector.Short (nlaValue nb.buffer)

private theorem selector_eq_panic_iff :
    (do
      let buf ← (checkedBuffer "TcU32SelectorBuffer" TC_U32_SEL_BUF_LEN payload).context
        "invalid TCA_U32_SEL"
      (TcU32Selector.parse buf).context "failed to parse TCA_U32_SEL") = .panic ↔
      TcU32Selector.Short payload := by
  rcases Nat.lt_or_ge payload.length 16 with h | h
  · obtain ⟨e, he⟩ := checkedBuffer_of_lt (s := "TcU32SelectorBuffer") h
    rw [he, Outcome.context_err, Outcome.err_bind]
    refine iff_of_false (by simp) fun hs => ?_
    have := hs.1
    omega
  · rw [checkedBuffer_of_le h, Outcome.context_ok, Outcome.ok_bind, Outcome.context_eq_panic,
      TcU32Selector.parse_eq_panic_iff h]

/-- An option of u32 panics in its actions or in its selector. -/
theorem parse_eq_panic_iff (hv : NlaValid nb.buffer) :
    parse nb = .panic ↔ Short nb ∨ ShortSelector nb := by
  refine (hv.parse_eq_panic_iff (by simp only [List.map]; decide)).trans ?_
  simp [-bind_pure_comp, -map_bind, Short, ShortSelector, selector_eq_panic_iff,
    parseNlas_eq_panic_iff, TcAction.exists_reached_panic_iff, or_comm]

end TcFilterU32Option

namespace TcFilterMatchAllOption

/-- Among the actions of the filter is one whose statistics are too short. -/
def Short (nb : NlaBuffer) : Prop :=
  wireKind nb = TCA_MATCHALL_ACT ∧ TcAction.ShortIn (nlaValue nb.buffer)

/-- An option of matchall panics in its actions. -/
theorem parse_eq_panic_iff (hv : NlaValid nb.buffer) : parse nb = .panic ↔ Short nb := by
  refine (hv.parse_eq_panic_iff (by simp only [List.map]; decide)).trans ?_
  simp [Short, parseNlas_eq_panic_iff, TcAction.exists_reached_panic_iff]

end TcFilterMatchAllOption

/-- The options of fq_codel are numbers behind length checks. -/
theorem TcQdiscFqCodelOption.parse_ne_panic (hv : NlaValid nb.buffer) :
    TcQdiscFqCodelOption.parse nb ≠ .panic := hv.parse_ne_panic (by simp)

namespace TcOption

/-- An option of a filter that holds such an action. -/
def Short (kind : String) (nb : NlaBuffer) : Prop :=
  kind = TcFilterU32.KIND ∧ TcFilterU32Option.Short nb ∨
    kind = TcFilterMatchAll.KIND ∧ TcFilterMatchAllOption.Short nb

/-- An option that is such a selector. -/
def ShortSelector (kind : String) (nb : NlaBuffer) : Prop :=
  kind = TcFilterU32.KIND ∧ TcFilterU32Option.ShortSelector nb

/-- An option panics under the kind of a filter and in no other way. -/
theorem parse_eq_panic_iff (hv : NlaValid nb.buffer) :
    parseWithParam nb kind = .panic ↔ Short kind nb ∨ ShortSelector kind nb := by
  refine (select_eq_panic_iff (by simp only [List.map]; decide)
    (by simp [hv.carries.defaultNla])).trans ?_
  have hingress : TcQdiscIngressOption.parse nb ≠ .panic := by
    simp [TcQdiscIngressOption.parse, hv.carries.defaultNla]
  simp [Short, ShortSelector, hingress, TcQdiscFqCodelOption.parse_ne_panic hv,
    TcFilterU32Option.parse_eq_panic_iff hv, TcFilterMatchAllOption.parse_eq_panic_iff hv]
  tauto

end TcOption

/-- An option that the loop over the options gets to. -/
def VecTcOption.Reached (kind : String) (nb opt : NlaBuffer) : Prop :=
  NlaReached (TcOption.parseWithParam · kind) (nlaValue nb.buffer) opt

/-- The options of a message panic exactly at an option that does. -/
theorem VecTcOption.parse_eq_panic_iff (hv : NlaValid nb.buffer) :
    VecTcOption.parseWithParam nb kind = .panic ↔
      (∃ opt, Reached kind nb opt ∧ TcOption.Short kind opt) ∨
        ∃ opt, Reached kind nb opt ∧ TcOption.ShortSelector kind opt := by
  have hkind : ∀ {opt}, TcOption.Short kind opt ∨ TcOption.ShortSelector kind opt →
      kind ∈ listKinds := by
    rintro opt ((⟨rfl, -⟩ | ⟨rfl, -⟩) | ⟨rfl, -⟩) <;> decide
  rw [← exists_or]
  simp only [← and_or_left]
  unfold VecTcOption.parseWithParam
  by_cases hk : kind ∈ listKinds
  · rw [if_pos hk, hv.carries.value, Outcome.ok_bind, parseNlas_eq_panic_iff]
    exact exists_congr fun opt => and_congr_right fun hr =>
      TcOption.parse_eq_panic_iff (valid_of_mem_nlas hr.mem)
  · rw [if_neg hk, hv.carries.defaultNla]
    refine iff_of_false (by simp) ?_
    rintro ⟨opt, -, h⟩
    exact hk (hkind h)

/-! ## Messages -/

namespace TcAttribute

/-- **The defect**: statistics that are read with this kind, and that are
shorter than the structure they are read as. -/
def Short (kind : String) (nb : NlaBuffer) : Prop :=
  wireKind nb = TCA_OPTIONS ∧ (∃ opt, VecTcOption.Reached kind nb opt ∧ TcOption.Short kind opt) ∨
    wireKind nb = TCA_XSTATS ∧ TcXstats.Short kind nb ∨
    wireKind nb = TCA_STATS2 ∧ TcStats2.ShortIn kind (nlaValue nb.buffer)

/-- Options with a selector whose keys do not fit. -/
def ShortSelector (kind : String) (nb : NlaBuffer) : Prop :=
  wireKind nb = TCA_OPTIONS ∧
    ∃ opt, VecTcOption.Reached kind nb opt ∧ TcOption.ShortSelector kind opt

private theorem stats_ne_panic :
    (do
      let buf ← (checkedBuffer "TcStatsBuffer" TcStats.codec.len payload).context
        "invalid TCA_STATS"
      (TcStats.codec.parse buf).context "failed to parse TCA_STATS") ≠ .panic := by
  intro h
  rcases (Outcome.bind_eq_panic _ _).1 h with h | ⟨buf, hbuf, h⟩
  · simp at h
  · rw [Outcome.context_eq_ok] at hbuf
    rw [Outcome.context_eq_panic] at h
    exact HeaderCodec.parse_checked_ne_panic hbuf h

/-- An attribute panics exactly at short statistics or a short selector. -/
theorem parse_eq_panic_iff (hv : NlaValid nb.buffer) :
    parseWithParam nb kind = .panic ↔ Short kind nb ∨ ShortSelector kind nb := by
  refine (hv.parse_eq_panic_iff (by simp only [List.map]; decide)).trans ?_
  simp [-bind_pure_comp, -map_bind, Short, ShortSelector, stats_ne_panic,
    VecTcOption.parse_eq_panic_iff hv, TcXstats.parse_eq_panic_iff hv,
    TcStats2.parseNlas_eq_panic_iff]
  rw [and_or_left, or_right_comm]

end TcAttribute

namespace TcMessage

/-- The loop over the attributes of a message gets to this one, with this
kind. -/
def AttributeReached (b : Bytes) (kind : String) (nb : NlaBuffer) : Prop :=
  ReachedFrom (fun kind nla => do TcAttribute.step kind (← nla)) "" (nlas (b.drop 20)) kind (.ok nb)

/-- An attribute the decoder reaches is valid. -/
theorem AttributeReached.valid (h : AttributeReached b kind nb) : NlaValid nb.buffer :=
  valid_of_mem_nlas h.mem

/-- **Decoding panics when it gets to statistics that are too short**, or to
a selector whose keys do not fit. -/
theorem decode_eq_panic_iff : decode b = .panic ↔
    (∃ kind nb, AttributeReached b kind nb ∧ TcAttribute.Short kind nb) ∨
      ∃ kind nb, AttributeReached b kind nb ∧ TcAttribute.ShortSelector kind nb := by
  -- a turn of the loop panics where the attribute's parser does
  have hstep : ∀ {kind : String} {nb : NlaBuffer}, AttributeReached b kind nb →
      (TcAttribute.step kind nb = .panic ↔
        TcAttribute.Short kind nb ∨ TcAttribute.ShortSelector kind nb) := by
    intro kind nb hr
    rw [TcAttribute.step, Outcome.bind_eq_panic, TcAttribute.parse_eq_panic_iff hr.valid]
    simp
  have hloop : ∀ header, format.parseAttributes header (b.drop 20) = .panic ↔
      ∃ kind nb, AttributeReached b kind nb ∧
        (TcAttribute.Short kind nb ∨ TcAttribute.ShortSelector kind nb) := by
    intro header
    refine forEachFrom_eq_panic_iff.trans ?_
    constructor
    · rintro ⟨kind, nla, hr, hp⟩
      cases nla with
      | ok nb => exact ⟨kind, nb, hr, (hstep hr).1 hp⟩
      | err e => cases hp
      | panic => exact absurd hr.mem panic_not_mem_nlas
    · rintro ⟨kind, nb, hr, hs⟩
      exact ⟨kind, .ok nb, hr, (hstep hr).2 hs⟩
  simp only [← exists_or, ← and_or_left]
  refine format.decode_eq_panic_iff.trans ⟨?_, ?_⟩
  · rintro ⟨header, -, -, h⟩
    exact (hloop header).1 h
  · intro h
    obtain ⟨kind, nb, hr, -⟩ := id h
    have hle : 20 ≤ b.length := le_length_of_mem_nlas_drop hr.mem
    obtain ⟨header, hh, -⟩ := TcHeader.codec.parse_of_le b hle
    exact ⟨header, hle, hh, (hloop header).2 h⟩

end TcMessage

namespace TcActionMessageFlagsWithSelector

/-- The flags of an action message are read behind a length check. -/
theorem parse_ne_panic (hv : NlaValid nb.buffer) : parse nb ≠ .panic := by
  unfold parse
  rw [value_of_valid hv, Outcome.ok_bind]
  by_cases h : (nlaValue nb.buffer).length = 8
  · rw [if_neg (by simp [h]), slice_ok (by omega) (by omega), sliceFrom_ok (by omega)]
    simp
  · rw [if_pos h]
    simp

end TcActionMessageFlagsWithSelector

namespace TcActionMessageAttribute

/-- **The defect**: among the actions is one whose statistics are too
short. -/
def Short (nb : NlaBuffer) : Prop :=
  wireKind nb = TCA_ACT_TAB ∧ TcAction.ShortIn (nlaValue nb.buffer)

omit [PacketUtils] in
@[simp] theorem tryInto4_ne_panic : tryInto4 payload ≠ .panic := by
  unfold tryInto4
  split <;> simp

omit [PacketUtils] in
@[simp] theorem fromUtf8_ne_panic : fromUtf8 payload ≠ .panic := by
  unfold fromUtf8
  split <;> simp

/-- An attribute of an action message panics exactly in its actions. -/
theorem parse_eq_panic_iff (hv : NlaValid nb.buffer) : parse nb = .panic ↔ Short nb := by
  refine (hv.parse_eq_panic_iff_of (by simp only [List.map]; decide)
    (by simp [hv.carries.defaultNla])).trans ?_
  simp [Short, TcActionMessageFlagsWithSelector.parse_ne_panic hv, parseEach_eq_panic_iff,
    TcAction.exists_reached_panic_iff]

end TcActionMessageAttribute

namespace TcActionMessage

/-- The loop over the attributes of a message gets to this one. -/
def AttributeReached (b : Bytes) (nb : NlaBuffer) : Prop :=
  NlaReached TcActionMessageAttribute.parse (b.drop 4) nb

/-- **Decoding panics when it gets to an action whose statistics are too
short.** -/
theorem decode_eq_panic_iff : decode b = .panic ↔
    ∃ nb, AttributeReached b nb ∧ TcActionMessageAttribute.Short nb := by
  rw [decode_eq]
  exact format.decode_eq_panic_iff_of rfl rfl fun nb => TcActionMessageAttribute.parse_eq_panic_iff

end TcActionMessage

/-- **Decoding a message returns, with the message or an error, exactly
when it gets to no statistics that are too short**: a message about
disciplines and filters, if every selector has room for its keys, and a
message about actions. -/
theorem Tc.decode_returns_iff_not_short (b : Bytes) :
    ((∀ kind nb, TcMessage.AttributeReached b kind nb → ¬ TcAttribute.ShortSelector kind nb) →
      (TcMessage.decode b ≠ .panic ↔
        ∀ kind nb, TcMessage.AttributeReached b kind nb → ¬ TcAttribute.Short kind nb)) ∧
    (TcActionMessage.decode b ≠ .panic ↔
      ∀ nb, TcActionMessage.AttributeReached b nb → ¬ TcActionMessageAttribute.Short nb) := by
  constructor
  · intro hsel
    rw [Ne, TcMessage.decode_eq_panic_iff, not_or]
    constructor
    · rintro ⟨h, -⟩ kind nb hr hs
      exact h ⟨kind, nb, hr, hs⟩
    · intro h
      refine ⟨?_, ?_⟩
      · rintro ⟨kind, nb, hr, hs⟩
        exact h kind nb hr hs
      · rintro ⟨kind, nb, hr, hs⟩
        exact hsel kind nb hr hs
  · rw [Ne, TcActionMessage.decode_eq_panic_iff]
    constructor
    · intro h nb hr hs
      exact h ⟨nb, hr, hs⟩
    · rintro h ⟨nb, hr, hs⟩
      exact h nb hr hs

end

/-! ## On a little-endian host -/

section Panics

attribute [local instance] Reference.little

/-- Basic statistics of no bytes, in `TCA_STATS2`; statistics of
`fq_codel` that are one word; and an action with such basic statistics. -/
theorem Tc.decode_stats_panics :
    TcMessage.decode (zeros 20 ++ [8, 0, 7, 0, 4, 0, 1, 0]) = .panic ∧
    TcMessage.decode (zeros 20 ++
      [13, 0, 1, 0, 102, 113, 95, 99, 111, 100, 101, 108, 0, 0, 0, 0] ++
      [8, 0, 4, 0, 0, 0, 0, 0]) = .panic ∧
    TcActionMessage.decode (zeros 4 ++ [24, 0, 1, 0, 20, 0, 1, 0] ++
      [6, 0, 1, 0, 120, 0, 0, 0] ++ [8, 0, 4, 0, 4, 0, 1, 0]) = .panic :=
  ⟨rfl, rfl, rfl⟩

/-- A discipline of kind `fq_codel` with statistics of another structure. -/
def TcMessage.fqCodelBytes : Bytes :=
  zeros 20 ++ [13, 0, 1, 0, 102, 113, 95, 99, 111, 100, 101, 108, 0, 0, 0, 0] ++
    [8, 0, 4, 0, 2, 0, 0, 0]

theorem Tc.decode_returns_fqCodel : TcMessage.decode TcMessage.fqCodelBytes ≠ .panic ∧
    ∀ kind nb, TcMessage.AttributeReached TcMessage.fqCodelBytes kind nb →
      ¬ TcAttribute.Short kind nb := by
  have h : TcMessage.decode TcMessage.fqCodelBytes =
      .ok ⟨⟨.unspec, 0, ⟨0, 0⟩, ⟨0, 0⟩, 0⟩,
        [.kind_ "fq_codel", .xstats (.fqCodel (.other [2, 0, 0, 0]))]⟩ := rfl
  have hne : TcMessage.decode TcMessage.fqCodelBytes ≠ .panic := by simp [h]
  refine ⟨hne,
    ((Tc.decode_returns_iff_not_short TcMessage.fqCodelBytes).1 fun kind nb hr hs => ?_).1 hne⟩
  exact hne (TcMessage.decode_eq_panic_iff.2 (.inr ⟨kind, nb, hr, hs⟩))

end Panics

end NetlinkRoute
