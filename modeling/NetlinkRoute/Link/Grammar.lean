import Mathlib.Data.List.Induction
import NetlinkRoute.Common.Carried
import NetlinkRoute.Common.Reference
import NetlinkRoute.Link.RoundTrip.Info
/-!
# The grammar of the information about links

The attributes of `IFLA_LINKINFO` depend on each other: a kind is in force
until the next one, a kind of port until data of a port uses it up. The
decoder remembers both as it goes. Here it is said without a memory what
stands in front of an attribute that it accepts (`LinkInfo.Grammar`) and
what it makes of it (`LinkInfo.Reads`), and that this is what the decoder
does (`VecLinkInfo.parse_grammar`).
-/

namespace NetlinkRoute

open PacketUtils

namespace LinkInfo

variable {a : UInt16 × Bytes} {pre l : List (UInt16 × Bytes)}

/-! ## What is in force -/

/-- The most recent kind of link. -/
def linkKindBefore (pre : List (UInt16 × Bytes)) : Option InfoKind :=
  ((lastSome? (payloadOf IFLA_INFO_KIND) pre).bind textOf).map InfoKind.codec.ofNum

/-- The most recent kind of port. -/
def portKindBefore (pre : List (UInt16 × Bytes)) : Option InfoPortKind :=
  ((lastSome? (payloadOf IFLA_INFO_PORT_KIND) pre).bind textOf).map InfoPortKind.codec.ofNum

/-- An attribute that gives a kind of port, or one that uses it up. -/
def portTurn (a : UInt16 × Bytes) : Option Bool :=
  if kindOf a = IFLA_INFO_PORT_KIND then some true
  else if kindOf a = IFLA_INFO_PORT_DATA then some false
  else none

/-- No data of a port came after the most recent kind of port. -/
def Unused (pre : List (UInt16 × Bytes)) : Prop := lastSome? portTurn pre = some true

instance : Decidable (Unused pre) := inferInstanceAs (Decidable (_ = _))

/-- What the decoder remembers of the attributes it has seen. -/
def memoryOf (pre : List (UInt16 × Bytes)) : Memory where
  linkInfoKind := linkKindBefore pre
  linkInfoPortKind := if Unused pre then portKindBefore pre else none

/-- The link kind in force changes with each kind attribute and with nothing
else. -/
theorem linkKindBefore_concat : linkKindBefore (pre ++ [a]) =
    if kindOf a = IFLA_INFO_KIND then (textOf a.2).map InfoKind.codec.ofNum
    else linkKindBefore pre := by
  rw [linkKindBefore, lastSome?_concat, payloadOf]
  split_ifs <;> rfl

/-- The port kind in force does the same with its own attribute. -/
theorem portKindBefore_concat : portKindBefore (pre ++ [a]) =
    if kindOf a = IFLA_INFO_PORT_KIND then (textOf a.2).map InfoPortKind.codec.ofNum
    else portKindBefore pre := by
  rw [portKindBefore, lastSome?_concat, payloadOf]
  split_ifs <;> rfl

/-- A port kind waits for its data until data arrives. -/
theorem unused_concat : Unused (pre ++ [a]) ↔
    kindOf a = IFLA_INFO_PORT_KIND ∨ kindOf a ≠ IFLA_INFO_PORT_DATA ∧ Unused pre := by
  rw [Unused, lastSome?_concat, portTurn]
  by_cases hk : kindOf a = IFLA_INFO_PORT_KIND
  · simp [hk]
  · rw [if_neg hk]
    by_cases hd : kindOf a = IFLA_INFO_PORT_DATA
    · rw [if_pos hd]
      refine iff_of_false (by simp) ?_
      rintro (h | h)
      · exact hk h
      · exact h.1 hd
    · rw [if_neg hd, Option.none_or]
      exact ⟨fun h => .inr ⟨hd, h⟩, fun h => (h.resolve_left hk).2⟩

/-- **What is remembered changes with three kinds**, each in its own
place. -/
theorem memoryOf_concat : memoryOf (pre ++ [a]) = {
    linkInfoKind := if kindOf a = IFLA_INFO_KIND then (textOf a.2).map InfoKind.codec.ofNum
      else (memoryOf pre).linkInfoKind
    linkInfoPortKind :=
      if kindOf a = IFLA_INFO_PORT_KIND then (textOf a.2).map InfoPortKind.codec.ofNum
      else if kindOf a = IFLA_INFO_PORT_DATA then none
      else (memoryOf pre).linkInfoPortKind } := by
  have hne : IFLA_INFO_PORT_DATA ≠ IFLA_INFO_PORT_KIND := by decide
  rw [memoryOf, linkKindBefore_concat, portKindBefore_concat]
  simp only [unused_concat]
  by_cases hk : kindOf a = IFLA_INFO_PORT_KIND
  · simp [hk, memoryOf]
  · by_cases hd : kindOf a = IFLA_INFO_PORT_DATA
    · simp [hd, hne, memoryOf]
    · simp [hk, hd, memoryOf]

end LinkInfo

section

variable [PacketUtils] {parsePeer : Bytes → Outcome LinkMessage} {nb : NlaBuffer}
  {word : UInt16} {v : Bytes}

/-- A link kind is read exactly where its payload is text. -/
theorem InfoKind.parse_cases (hc : Carries nb word v)
    (hk : word &&& NLA_TYPE_MASK = IFLA_INFO_KIND) :
    (∃ s, textOf v = some s ∧ parse nb = .ok (codec.ofNum s)) ∨
      textOf v = none ∧ ∃ e, parse nb = .err e := by
  rw [parse, hc.kind, Outcome.ok_bind, if_neg (not_not.2 hk), hc.value, Outcome.ok_bind]
  exact textOf_cases codec.ofNum _

/-- So is a port kind. -/
theorem InfoPortKind.parse_cases (hc : Carries nb word v)
    (hk : word &&& NLA_TYPE_MASK = IFLA_INFO_PORT_KIND) :
    (∃ s, textOf v = some s ∧ parse nb = .ok (codec.ofNum s)) ∨
      textOf v = none ∧ ∃ e, parse nb = .err e := by
  rw [parse, hc.kind, Outcome.ok_bind, if_neg (not_not.2 hk), hc.value, Outcome.ok_bind]
  exact textOf_cases codec.ofNum _

namespace LinkInfo

variable {mem : Memory} {a : UInt16 × Bytes} {pre l : List (UInt16 × Bytes)}

/-! ## One attribute -/

/-- What an attribute is read as, behind others. -/
inductive Reads (parsePeer : Bytes → Outcome LinkMessage) (pre : List (UInt16 × Bytes))
    (a : UInt16 × Bytes) : LinkInfo → Prop where
  | infoKind {s : String} (hk : kindOf a = IFLA_INFO_KIND) (hs : textOf a.2 = some s) :
    Reads parsePeer pre a (.infoKind (InfoKind.codec.ofNum s))
  | portKind {s : String} (hk : kindOf a = IFLA_INFO_PORT_KIND) (hs : textOf a.2 = some s) :
    Reads parsePeer pre a (.portKind (InfoPortKind.codec.ofNum s))
  | data {k : InfoKind} {d : InfoData} (hk : kindOf a = IFLA_INFO_DATA)
      (hpre : linkKindBefore pre = some k) (hd : InfoData.parseWithParam parsePeer a.2 k = .ok d) :
    Reads parsePeer pre a (.data d)
  | xstats {k : InfoKind} (hk : kindOf a = IFLA_INFO_XSTATS) (hpre : linkKindBefore pre = some k) :
    Reads parsePeer pre a (.xstats ⟨a.2⟩)
  | portData {k : InfoPortKind} {d : InfoPortData} (hk : kindOf a = IFLA_INFO_PORT_DATA)
      (hunused : Unused pre) (hpre : portKindBefore pre = some k)
      (hd : InfoPortData.parseWithParam a.2 k = .ok d) :
    Reads parsePeer pre a (.portData d)
  | other (hk : kindOf a ∉ kinds) : Reads parsePeer pre a (.other ⟨a.1, a.2⟩)

/-- A step of the loop looks at one attribute and the memory. -/
theorem local_step : Local (step parsePeer mem) := by
  intro nb nb' word v h h'
  simp only [step, InfoKind.parse, InfoPortKind.parse, h.kind, h'.kind, h.value, h'.value,
    h.defaultNla, h'.defaultNla, Outcome.context_ok]

variable {x : LinkInfo}

/-- What each kind of attribute is read as. -/
theorem reads_iff : Reads parsePeer pre a x ↔
    (kindOf a = IFLA_INFO_KIND ∧ ∃ s, textOf a.2 = some s ∧
      x = .infoKind (InfoKind.codec.ofNum s)) ∨
    (kindOf a = IFLA_INFO_PORT_KIND ∧ ∃ s, textOf a.2 = some s ∧
      x = .portKind (InfoPortKind.codec.ofNum s)) ∨
    (kindOf a = IFLA_INFO_DATA ∧ ∃ k, linkKindBefore pre = some k ∧
      ∃ d, InfoData.parseWithParam parsePeer a.2 k = .ok d ∧ x = .data d) ∨
    (kindOf a = IFLA_INFO_XSTATS ∧ ∃ k, linkKindBefore pre = some k ∧ x = .xstats ⟨a.2⟩) ∨
    (kindOf a = IFLA_INFO_PORT_DATA ∧ Unused pre ∧ ∃ k, portKindBefore pre = some k ∧
      ∃ d, InfoPortData.parseWithParam a.2 k = .ok d ∧ x = .portData d) ∨
    (kindOf a ∉ kinds ∧ x = .other ⟨a.1, a.2⟩) := by
  constructor
  · intro h
    cases h with
    | infoKind hk hs => exact .inl ⟨hk, _, hs, rfl⟩
    | portKind hk hs => exact .inr (.inl ⟨hk, _, hs, rfl⟩)
    | data hk hpre hd => exact .inr (.inr (.inl ⟨hk, _, hpre, _, hd, rfl⟩))
    | xstats hk hpre => exact .inr (.inr (.inr (.inl ⟨hk, _, hpre, rfl⟩)))
    | portData hk hunused hpre hd =>
      exact .inr (.inr (.inr (.inr (.inl ⟨hk, hunused, _, hpre, _, hd, rfl⟩))))
    | other hk => exact .inr (.inr (.inr (.inr (.inr ⟨hk, rfl⟩))))
  · rintro (⟨hk, s, hs, rfl⟩ | ⟨hk, s, hs, rfl⟩ | ⟨hk, k, hpre, d, hd, rfl⟩ | ⟨hk, k, hpre, rfl⟩ |
      ⟨hk, hunused, k, hpre, d, hd, rfl⟩ | ⟨hk, rfl⟩)
    · exact .infoKind hk hs
    · exact .portKind hk hs
    · exact .data hk hpre hd
    · exact .xstats hk hpre
    · exact .portData hk hunused hpre hd
    · exact .other hk

attribute [local simp] kinds IFLA_INFO_KIND IFLA_INFO_DATA IFLA_INFO_XSTATS IFLA_INFO_PORT_KIND
  IFLA_INFO_PORT_DATA

/-- **One turn**: an attribute is accepted when it reads as something, and
what is remembered then is what it and those in front of it leave. -/
theorem step_memoryOf (hc : Carries nb a.1 a.2) {mem' : Memory} :
    step parsePeer (memoryOf pre) nb = .ok (mem', x) ↔
      Reads parsePeer pre a x ∧ mem' = memoryOf (pre ++ [a]) := by
  rw [step, hc.kind, Outcome.ok_bind]
  by_cases hkind : kindOf a = IFLA_INFO_KIND
  · have hk : a.1 &&& NLA_TYPE_MASK = IFLA_INFO_KIND := hkind
    rw [hk, select_of_find rfl, reads_iff, memoryOf_concat]
    rcases InfoKind.parse_cases hc hk with ⟨s, hs, hp⟩ | ⟨hs, e, hp⟩
    · simp [hp, hs, hkind, eq_comm, and_comm]
    · simp [hp, hs, hkind]
  by_cases hport : kindOf a = IFLA_INFO_PORT_KIND
  · have hk : a.1 &&& NLA_TYPE_MASK = IFLA_INFO_PORT_KIND := hport
    rw [hk, select_of_find rfl, reads_iff, memoryOf_concat]
    rcases InfoPortKind.parse_cases hc hk with ⟨s, hs, hp⟩ | ⟨hs, e, hp⟩
    · simp [hp, hs, hport, eq_comm, and_comm]
    · simp [hp, hs, hport]
  by_cases hdata : kindOf a = IFLA_INFO_DATA
  · have hk : a.1 &&& NLA_TYPE_MASK = IFLA_INFO_DATA := hdata
    rw [hk, select_of_find rfl, reads_iff, memoryOf_concat]
    rcases hpre : linkKindBefore pre with _ | k
    · simp [memoryOf, hpre, hdata]
    · cases hd : InfoData.parseWithParam parsePeer a.2 k <;>
        simp [memoryOf, hpre, hc.value, hd, hdata, eq_comm, and_comm]
  by_cases hxstats : kindOf a = IFLA_INFO_XSTATS
  · have hk : a.1 &&& NLA_TYPE_MASK = IFLA_INFO_XSTATS := hxstats
    rw [hk, select_of_find rfl, reads_iff, memoryOf_concat]
    rcases hpre : linkKindBefore pre with _ | k
    · simp [memoryOf, hpre, hxstats]
    · simp [memoryOf, hpre, hc.value, hxstats, eq_comm, and_comm]
  by_cases hused : kindOf a = IFLA_INFO_PORT_DATA
  · have hk : a.1 &&& NLA_TYPE_MASK = IFLA_INFO_PORT_DATA := hused
    rw [hk, select_of_find rfl, reads_iff, memoryOf_concat]
    by_cases hu : Unused pre
    · rcases hpre : portKindBefore pre with _ | k
      · simp [memoryOf, hu, hpre, hused]
      · cases hd : InfoPortData.parseWithParam a.2 k <;>
          simp [memoryOf, hu, hpre, hc.value, hd, hused, eq_comm, and_comm]
    · simp [memoryOf, hu, hused]
  have hother : kindOf a ∉ kinds := by simp [kinds, hkind, hport, hdata, hxstats, hused]
  rw [select_default (by exact hother), hc.defaultNla, reads_iff, memoryOf_concat]
  simp [hkind, hport, hdata, hxstats, hused, eq_comm]
  exact and_comm

/-! ## The grammar -/

/-- **What the decoder accepts.** Kinds are strings; data and statistics of
the driver have a kind in front of them, and data of a port has a kind of
port between it and the data of a port before; and data is accepted by the
decoder of its kind. -/
structure Grammar (parsePeer : Bytes → Outcome LinkMessage) (l : List (UInt16 × Bytes)) :
    Prop where
  text : ∀ a ∈ l, kindOf a = IFLA_INFO_KIND ∨ kindOf a = IFLA_INFO_PORT_KIND →
    (textOf a.2).isSome
  preceded : ∀ pre a post, l = pre ++ a :: post →
    kindOf a = IFLA_INFO_DATA ∨ kindOf a = IFLA_INFO_XSTATS →
      ∃ c ∈ pre, kindOf c = IFLA_INFO_KIND
  unused : ∀ pre a post, l = pre ++ a :: post → kindOf a = IFLA_INFO_PORT_DATA →
    ∃ front c between, pre = front ++ c :: between ∧ kindOf c = IFLA_INFO_PORT_KIND ∧
      ∀ d ∈ between, kindOf d ≠ IFLA_INFO_PORT_DATA
  data : ∀ pre a post, l = pre ++ a :: post → kindOf a = IFLA_INFO_DATA →
    ∀ k, linkKindBefore pre = some k → ∃ d, InfoData.parseWithParam parsePeer a.2 k = .ok d
  portData : ∀ pre a post, l = pre ++ a :: post → kindOf a = IFLA_INFO_PORT_DATA →
    ∀ k, portKindBefore pre = some k → ∃ d, InfoPortData.parseWithParam a.2 k = .ok d

omit [PacketUtils] in
/-- The last attribute that turns the kind of port is one that gives it. -/
theorem unused_iff : Unused pre ↔ ∃ front c between, pre = front ++ c :: between ∧
    kindOf c = IFLA_INFO_PORT_KIND ∧ ∀ d ∈ between, kindOf d ≠ IFLA_INFO_PORT_DATA := by
  induction pre using List.reverseRecOn with
  | nil => simp [Unused]
  | append_singleton pre a ih =>
    rw [unused_concat, ih]
    constructor
    · rintro (hk | ⟨hd, front, c, between, rfl, hc, hbetween⟩)
      · exact ⟨pre, a, [], rfl, hk, by simp⟩
      · refine ⟨front, c, between ++ [a], by simp, hc, fun d hdm => ?_⟩
        rcases List.mem_append.1 hdm with hdm | hdm
        · exact hbetween d hdm
        · rwa [List.mem_singleton.1 hdm]
    · rintro ⟨front, c, between, heq, hc, hbetween⟩
      induction between using List.reverseRecOn with
      | nil =>
        obtain ⟨-, rfl⟩ := List.append_singleton_inj.1 heq
        exact .inl hc
      | append_singleton between d _ =>
        rw [← List.cons_append, ← List.append_assoc] at heq
        obtain ⟨rfl, rfl⟩ := List.append_singleton_inj.1 heq
        exact .inr ⟨hbetween _ (by simp), front, c, between, rfl, hc,
          fun d hd => hbetween d (by simp [hd])⟩

omit [PacketUtils] in
/-- The last text of a kind, where there is one and all are texts. -/
theorem exists_text {kind : UInt16} (hex : ∃ c ∈ pre, kindOf c = kind)
    (htext : ∀ c ∈ pre, kindOf c = kind → (textOf c.2).isSome) :
    ∃ s, (lastSome? (payloadOf kind) pre).bind textOf = some s := by
  obtain ⟨c, hc, hck⟩ := hex
  rcases hlast : lastSome? (payloadOf kind) pre with _ | v
  · have hnone := lastSome?_eq_none_iff.1 hlast c hc
    rw [payloadOf, if_pos hck] at hnone
    cases hnone
  · obtain ⟨d, hd, hdv⟩ := exists_of_lastSome?_eq_some hlast
    simp only [payloadOf, Option.ite_none_right_eq_some, Option.some.injEq] at hdv
    obtain ⟨hdk, rfl⟩ := hdv
    exact Option.isSome_iff_exists.1 (htext d hd hdk)

omit [PacketUtils] in
/-- A link kind in force was set by an attribute before. -/
theorem exists_of_linkKindBefore {k : InfoKind} (h : linkKindBefore pre = some k) :
    ∃ c ∈ pre, kindOf c = IFLA_INFO_KIND := by
  rw [linkKindBefore, Option.map_eq_some_iff] at h
  obtain ⟨s, hs, -⟩ := h
  obtain ⟨v, hv, -⟩ := Option.bind_eq_some_iff.1 hs
  obtain ⟨c, hc, hcv⟩ := exists_of_lastSome?_eq_some hv
  exact ⟨c, hc, (Option.ite_none_right_eq_some.1 hcv).1⟩

omit [PacketUtils] in
/-- Once a readable kind attribute has passed, some kind is in force. -/
theorem exists_linkKindBefore (hex : ∃ c ∈ pre, kindOf c = IFLA_INFO_KIND)
    (htext : ∀ c ∈ pre, kindOf c = IFLA_INFO_KIND → (textOf c.2).isSome) :
    ∃ k, linkKindBefore pre = some k := by
  obtain ⟨s, hs⟩ := exists_text hex htext
  exact ⟨_, by rw [linkKindBefore, hs]; rfl⟩

omit [PacketUtils] in
/-- Where the turn is a kind's, there is a kind. -/
theorem exists_portKindBefore (hu : Unused pre)
    (htext : ∀ c ∈ pre, kindOf c = IFLA_INFO_PORT_KIND → (textOf c.2).isSome) :
    ∃ k, portKindBefore pre = some k := by
  obtain ⟨front, c, between, rfl, hc, -⟩ := unused_iff.1 hu
  obtain ⟨s, hs⟩ := exists_text ⟨c, by simp, hc⟩ htext
  exact ⟨_, by rw [portKindBefore, hs]; rfl⟩

/-- In a list of the grammar each attribute reads as something. -/
theorem Grammar.exists_reads (h : Grammar parsePeer l) {post : List (UInt16 × Bytes)}
    (heq : l = pre ++ a :: post) : ∃ x, Reads parsePeer pre a x := by
  have hpre : ∀ c ∈ pre, c ∈ l := fun c hc => by simp [heq, hc]
  by_cases hkind : kindOf a = IFLA_INFO_KIND
  · obtain ⟨s, hs⟩ := Option.isSome_iff_exists.1 (h.text a (by simp [heq]) (.inl hkind))
    exact ⟨_, .infoKind hkind hs⟩
  by_cases hport : kindOf a = IFLA_INFO_PORT_KIND
  · obtain ⟨s, hs⟩ := Option.isSome_iff_exists.1 (h.text a (by simp [heq]) (.inr hport))
    exact ⟨_, .portKind hport hs⟩
  by_cases hdata : kindOf a = IFLA_INFO_DATA
  · obtain ⟨k, hk⟩ := exists_linkKindBefore (h.preceded pre a post heq (.inl hdata))
      fun c hc hk => h.text c (hpre c hc) (.inl hk)
    obtain ⟨d, hd⟩ := h.data pre a post heq hdata k hk
    exact ⟨_, .data hdata hk hd⟩
  by_cases hxstats : kindOf a = IFLA_INFO_XSTATS
  · obtain ⟨k, hk⟩ := exists_linkKindBefore (h.preceded pre a post heq (.inr hxstats))
      fun c hc hk => h.text c (hpre c hc) (.inl hk)
    exact ⟨_, .xstats hxstats hk⟩
  by_cases hused : kindOf a = IFLA_INFO_PORT_DATA
  · have hu := unused_iff.2 (h.unused pre a post heq hused)
    obtain ⟨k, hk⟩ := exists_portKindBefore hu fun c hc hk => h.text c (hpre c hc) (.inr hk)
    obtain ⟨d, hd⟩ := h.portData pre a post heq hused k hk
    exact ⟨_, .portData hused hu hk hd⟩
  · exact ⟨_, .other (by simp [hkind, hport, hdata, hxstats, hused])⟩

/-- And a list in which each does is of the grammar. -/
theorem grammar_of_reads
    (h : ∀ pre a post, l = pre ++ a :: post → ∃ x, Reads parsePeer pre a x) :
    Grammar parsePeer l where
  text a ha hk := by
    obtain ⟨pre, post, heq⟩ := List.append_of_mem ha
    obtain ⟨x, hx⟩ := h pre a post heq
    rcases hk with hk | hk
    · obtain ⟨s, hs, -⟩ : ∃ s, textOf a.2 = some s ∧ _ := by simpa [reads_iff, hk] using hx
      rw [hs, Option.isSome_some]
    · obtain ⟨s, hs, -⟩ : ∃ s, textOf a.2 = some s ∧ _ := by simpa [reads_iff, hk] using hx
      rw [hs, Option.isSome_some]
  preceded pre a post heq hk := by
    obtain ⟨x, hx⟩ := h pre a post heq
    rcases hk with hk | hk
    · obtain ⟨k, hpre, -⟩ : ∃ k, linkKindBefore pre = some k ∧ _ := by
        simpa [reads_iff, hk] using hx
      exact exists_of_linkKindBefore hpre
    · obtain ⟨⟨k, hpre⟩, -⟩ : (∃ k, linkKindBefore pre = some k) ∧ _ := by
        simpa [reads_iff, hk] using hx
      exact exists_of_linkKindBefore hpre
  unused pre a post heq hk := by
    obtain ⟨x, hx⟩ := h pre a post heq
    obtain ⟨hu, -⟩ : Unused pre ∧ ∃ k, portKindBefore pre = some k ∧ _ := by
      simpa [reads_iff, hk] using hx
    exact unused_iff.1 hu
  data pre a post heq hk k hpre := by
    obtain ⟨x, hx⟩ := h pre a post heq
    obtain ⟨k', hpre', d, hd, -⟩ : ∃ k, linkKindBefore pre = some k ∧
        ∃ d, InfoData.parseWithParam parsePeer a.2 k = .ok d ∧ x = .data d := by
      simpa [reads_iff, hk] using hx
    obtain rfl := Option.some.inj (hpre.symm.trans hpre')
    exact ⟨d, hd⟩
  portData pre a post heq hk k hpre := by
    obtain ⟨x, hx⟩ := h pre a post heq
    obtain ⟨-, k', hpre', d, hd, -⟩ : Unused pre ∧ ∃ k, portKindBefore pre = some k ∧
        ∃ d, InfoPortData.parseWithParam a.2 k = .ok d ∧ x = .portData d := by
      simpa [reads_iff, hk] using hx
    obtain rfl := Option.some.inj (hpre.symm.trans hpre')
    exact ⟨d, hd⟩

/-- **A list is of the grammar when each of its attributes reads as
something**, behind those in front of it. -/
theorem grammar_iff : Grammar parsePeer l ↔
    ∀ pre a post, l = pre ++ a :: post → ∃ x, Reads parsePeer pre a x :=
  ⟨fun h _ _ _ => h.exists_reads, grammar_of_reads⟩

/-! ## Two contexts -/

/-- Data and statistics of the driver are read by kinds of link alone. -/
theorem reads_filter_link (hk : kindOf a = IFLA_INFO_DATA ∨ kindOf a = IFLA_INFO_XSTATS) :
    Reads parsePeer pre a x ↔
      Reads parsePeer (pre.filter fun c => kindOf c = IFLA_INFO_KIND) a x := by
  have hlast : lastSome? (payloadOf IFLA_INFO_KIND)
      (pre.filter fun c => kindOf c = IFLA_INFO_KIND) =
        lastSome? (payloadOf IFLA_INFO_KIND) pre :=
    lastSome?_filter fun c _ hc => if_neg (by simpa using hc)
  have hlink : linkKindBefore (pre.filter fun c => kindOf c = IFLA_INFO_KIND) =
      linkKindBefore pre := by
    rw [linkKindBefore, hlast, linkKindBefore]
  rcases hk with hk | hk <;> simp [reads_iff, hk, hlink]

/-- Data of a port is read by kinds and data of ports alone. -/
theorem reads_filter_port (hk : kindOf a = IFLA_INFO_PORT_DATA) :
    Reads parsePeer pre a x ↔ Reads parsePeer
      (pre.filter fun c => kindOf c = IFLA_INFO_PORT_KIND ∨ kindOf c = IFLA_INFO_PORT_DATA)
      a x := by
  have hdropped : ∀ c, decide (kindOf c = IFLA_INFO_PORT_KIND ∨
      kindOf c = IFLA_INFO_PORT_DATA) = false →
        kindOf c ≠ IFLA_INFO_PORT_KIND ∧ kindOf c ≠ IFLA_INFO_PORT_DATA := by
    intro c hc
    exact not_or.1 (of_decide_eq_false hc)
  have hlast : lastSome? (payloadOf IFLA_INFO_PORT_KIND)
      (pre.filter fun c => kindOf c = IFLA_INFO_PORT_KIND ∨ kindOf c = IFLA_INFO_PORT_DATA) =
        lastSome? (payloadOf IFLA_INFO_PORT_KIND) pre :=
    lastSome?_filter fun c _ hc => if_neg (hdropped c hc).1
  have hturn : lastSome? portTurn
      (pre.filter fun c => kindOf c = IFLA_INFO_PORT_KIND ∨ kindOf c = IFLA_INFO_PORT_DATA) =
        lastSome? portTurn pre :=
    lastSome?_filter fun c _ hc => by
      rw [portTurn, if_neg (hdropped c hc).1, if_neg (hdropped c hc).2]
  have hport : portKindBefore (pre.filter fun c => kindOf c = IFLA_INFO_PORT_KIND ∨
      kindOf c = IFLA_INFO_PORT_DATA) = portKindBefore pre := by
    rw [portKindBefore, hlast, portKindBefore]
  have hunused : Unused (pre.filter fun c => kindOf c = IFLA_INFO_PORT_KIND ∨
      kindOf c = IFLA_INFO_PORT_DATA) ↔ Unused pre := by
    rw [Unused, hturn, Unused]
  simp only [reads_iff, hport, hunused]
  simp [hk]

end LinkInfo

/-- **The decoder accepts its grammar and nothing else.** It reads each
attribute by those in front of it: what belongs to the link by kinds of link
alone, data of a port by kinds and data of ports alone. -/
theorem VecLinkInfo.parse_grammar {l : List (UInt16 × Bytes)} (hl : Consistent l) :
    ((∃ infos, VecLinkInfo.parse (encodeNlas l) = .ok infos) ↔
      LinkInfo.Grammar LinkMessage.decode l) ∧
    (∀ infos, VecLinkInfo.parse (encodeNlas l) = .ok infos →
      EachWith (LinkInfo.Reads LinkMessage.decode) l infos) ∧
    (∀ pre a x, kindOf a = IFLA_INFO_DATA ∨ kindOf a = IFLA_INFO_XSTATS →
      (LinkInfo.Reads LinkMessage.decode pre a x ↔ LinkInfo.Reads LinkMessage.decode
        (pre.filter fun c => kindOf c = IFLA_INFO_KIND) a x)) ∧
    (∀ pre a x, kindOf a = IFLA_INFO_PORT_DATA →
      (LinkInfo.Reads LinkMessage.decode pre a x ↔ LinkInfo.Reads LinkMessage.decode
        (pre.filter fun c => kindOf c = IFLA_INFO_PORT_KIND ∨ kindOf c = IFLA_INFO_PORT_DATA)
        a x)) := by
  have hrun : ∀ infos, VecLinkInfo.parse (encodeNlas l) = .ok infos ↔
      EachWith (LinkInfo.Reads LinkMessage.decode) l infos := by
    intro infos
    rw [VecLinkInfo.parse, LinkInfo.parseVec,
      forEachFrom_encodeNlas (fun _ => LinkInfo.local_step) hl]
    exact @forEachFrom_eq_ok_iff _ _ l _ _ LinkInfo.memoryOf (LinkInfo.Reads LinkMessage.decode)
      (fun _ a ha _ _ => LinkInfo.step_memoryOf (carries_nlaOf (hl a ha))) [] infos
  refine ⟨?_, fun infos => (hrun infos).1, fun _ _ _ => LinkInfo.reads_filter_link,
    fun _ _ _ => LinkInfo.reads_filter_port⟩
  simp only [hrun]
  rw [exists_eachWith_iff, LinkInfo.grammar_iff]

end

/-! ## On a little-endian host -/

section

attribute [local instance] Reference.little

/-- Two kinds of link, and a port between them. -/
def twoKinds : List (UInt16 × Bytes) := [
  (IFLA_INFO_KIND, [100, 117, 109, 109, 121]), (IFLA_INFO_PORT_KIND, [120]),
  (IFLA_INFO_DATA, [1]), (IFLA_INFO_KIND, [105, 102, 98]), (IFLA_INFO_PORT_DATA, [2]),
  (IFLA_INFO_XSTATS, [3])]

theorem twoKinds_grammar : VecLinkInfo.parse (encodeNlas twoKinds) = .ok [.infoKind .dummy,
      .portKind (.other "x"), .data (.other [1]), .infoKind .ifb, .portData (.other [2]),
      .xstats ⟨[3]⟩] ∧
    LinkInfo.Grammar LinkMessage.decode twoKinds := by
  have hparse : VecLinkInfo.parse (encodeNlas twoKinds) = .ok [.infoKind .dummy,
      .portKind (.other "x"), .data (.other [1]), .infoKind .ifb, .portData (.other [2]),
      .xstats ⟨[3]⟩] := rfl
  exact ⟨hparse, (VecLinkInfo.parse_grammar (by unfold Consistent; decide)).1.1 ⟨_, hparse⟩⟩

end

end NetlinkRoute
