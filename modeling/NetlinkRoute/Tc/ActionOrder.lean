import Mathlib.Data.Fin.VecNotation
import Mathlib.Data.List.FinRange
import NetlinkRoute.Common.Carried
import NetlinkRoute.Common.Reference
import NetlinkRoute.Tc.RoundTrip.Action
import NetlinkRoute.Tc.Safety
/-!
# Actions — attributes in any order

The attributes of an action are gone through twice: for the kind, and then
with it. The first pass accepts exactly one attribute that names a kind,
wherever it stands (`TcAction.findKind_encodeNlas_eq_ok_iff`), and the second
reads each attribute with that kind alone (`TcActionAttribute.Reads`). So
another order of the attributes is another order of what is read
(`TcAction.parse_anyOrder`).
-/

namespace NetlinkRoute

open PacketUtils

section

variable [PacketUtils] {nb : NlaBuffer} {word : UInt16} {v : Bytes}

/-! ## One attribute -/

namespace TcActionAttribute

variable {kind : String} {a : UInt16 × Bytes} {x : TcActionAttribute}

/-- What an attribute is read as, with the kind of its action. -/
inductive Reads (kind : String) (a : UInt16 × Bytes) : TcActionAttribute → Prop where
  | kind_ {s : String} (hk : kindOf a = TCA_ACT_KIND) (hs : textOf a.2 = some s) :
    Reads kind a (.kind_ s)
  | options {opts : List TcActionOption} (hk : kindOf a = TCA_ACT_OPTIONS)
      (h : parseNlas "invalid TCA_ACT_OPTIONS" "failed to parse TCA_ACT_OPTIONS"
        (TcActionOption.parseWithParam · kind) a.2 = .ok opts) :
    Reads kind a (.options opts)
  | index (hk : kindOf a = TCA_ACT_INDEX) (hlen : a.2.length = 4) :
    Reads kind a (.index (ne.toU32 a.2))
  | stats {stats : List TcStats2} (hk : kindOf a = TCA_ACT_STATS)
      (h : parseNlas "invalid TCA_ACT_STATS" "failed to parse TCA_ACT_STATS"
        (TcStats2.parseWithParam · kind) a.2 = .ok stats) :
    Reads kind a (.stats stats)
  | cookie (hk : kindOf a = TCA_ACT_COOKIE) : Reads kind a (.cookie a.2)
  | inHwCount (hk : kindOf a = TCA_ACT_IN_HW_COUNT) (hlen : a.2.length = 4) :
    Reads kind a (.inHwCount (ne.toU32 a.2))
  | other (hk : kindOf a ∉ kinds) : Reads kind a (.other ⟨a.1, a.2⟩)

/-- What each kind of attribute is read as. -/
theorem reads_iff : Reads kind a x ↔
    (kindOf a = TCA_ACT_KIND ∧ ∃ s, textOf a.2 = some s ∧ .kind_ s = x) ∨
    (kindOf a = TCA_ACT_OPTIONS ∧ ∃ opts, parseNlas "invalid TCA_ACT_OPTIONS"
      "failed to parse TCA_ACT_OPTIONS" (TcActionOption.parseWithParam · kind) a.2 = .ok opts ∧
        .options opts = x) ∨
    (kindOf a = TCA_ACT_INDEX ∧ a.2.length = 4 ∧ .index (ne.toU32 a.2) = x) ∨
    (kindOf a = TCA_ACT_STATS ∧ ∃ stats, parseNlas "invalid TCA_ACT_STATS"
      "failed to parse TCA_ACT_STATS" (TcStats2.parseWithParam · kind) a.2 = .ok stats ∧
        .stats stats = x) ∨
    (kindOf a = TCA_ACT_COOKIE ∧ .cookie a.2 = x) ∨
    (kindOf a = TCA_ACT_IN_HW_COUNT ∧ a.2.length = 4 ∧ .inHwCount (ne.toU32 a.2) = x) ∨
    (kindOf a ∉ kinds ∧ .other ⟨a.1, a.2⟩ = x) := by
  constructor
  · intro h
    cases h with
    | kind_ hk hs => exact .inl ⟨hk, _, hs, rfl⟩
    | options hk h => exact .inr (.inl ⟨hk, _, h, rfl⟩)
    | index hk hlen => exact .inr (.inr (.inl ⟨hk, hlen, rfl⟩))
    | stats hk h => exact .inr (.inr (.inr (.inl ⟨hk, _, h, rfl⟩)))
    | cookie hk => exact .inr (.inr (.inr (.inr (.inl ⟨hk, rfl⟩))))
    | inHwCount hk hlen => exact .inr (.inr (.inr (.inr (.inr (.inl ⟨hk, hlen, rfl⟩)))))
    | other hk => exact .inr (.inr (.inr (.inr (.inr (.inr ⟨hk, rfl⟩)))))
  · rintro (⟨hk, s, hs, rfl⟩ | ⟨hk, opts, h, rfl⟩ | ⟨hk, hlen, rfl⟩ | ⟨hk, stats, h, rfl⟩ |
      ⟨hk, rfl⟩ | ⟨hk, hlen, rfl⟩ | ⟨hk, rfl⟩)
    · exact .kind_ hk hs
    · exact .options hk h
    · exact .index hk hlen
    · exact .stats hk h
    · exact .cookie hk
    · exact .inHwCount hk hlen
    · exact .other hk

attribute [local simp] kinds TCA_ACT_KIND TCA_ACT_OPTIONS TCA_ACT_INDEX TCA_ACT_STATS TCA_ACT_COOKIE
  TCA_ACT_IN_HW_COUNT

/-- **The parser reads an attribute so.** -/
theorem parseWithParam_eq_ok_iff (hc : Carries nb a.1 a.2) :
    parseWithParam nb kind = .ok x ↔ Reads kind a x := by
  rw [parseWithParam, hc.bind, reads_iff]
  by_cases hkind : kindOf a = TCA_ACT_KIND
  · have hk : a.1 &&& NLA_TYPE_MASK = TCA_ACT_KIND := hkind
    rw [hk, select_of_find rfl]
    simp [hkind, parseString_eq_ok_iff, Outcome.map_eq_ok]
  by_cases hoptions : kindOf a = TCA_ACT_OPTIONS
  · have hk : a.1 &&& NLA_TYPE_MASK = TCA_ACT_OPTIONS := hoptions
    rw [hk, select_of_find rfl]
    simp [hoptions, Outcome.map_eq_ok]
  by_cases hindex : kindOf a = TCA_ACT_INDEX
  · have hk : a.1 &&& NLA_TYPE_MASK = TCA_ACT_INDEX := hindex
    rw [hk, select_of_find rfl]
    simp [hindex, parseU32_spec.eq_ok_iff, Outcome.map_eq_ok, and_assoc]
  by_cases hstats : kindOf a = TCA_ACT_STATS
  · have hk : a.1 &&& NLA_TYPE_MASK = TCA_ACT_STATS := hstats
    rw [hk, select_of_find rfl]
    simp [hstats, Outcome.map_eq_ok]
  by_cases hcookie : kindOf a = TCA_ACT_COOKIE
  · have hk : a.1 &&& NLA_TYPE_MASK = TCA_ACT_COOKIE := hcookie
    rw [hk, select_of_find rfl]
    simp [hcookie]
  by_cases hcount : kindOf a = TCA_ACT_IN_HW_COUNT
  · have hk : a.1 &&& NLA_TYPE_MASK = TCA_ACT_IN_HW_COUNT := hcount
    rw [hk, select_of_find rfl]
    simp [hcount, parseU32_spec.eq_ok_iff, Outcome.map_eq_ok, and_assoc]
  have hother : kindOf a ∉ kinds := by simp [hkind, hoptions, hindex, hstats, hcookie, hcount]
  rw [select_default (by exact hother), hc.defaultNla]
  simp [hkind, hoptions, hindex, hstats, hcookie, hcount]

/-- An attribute of an action is parsed from its kind word and payload. -/
theorem local_parseWithParam : Local (parseWithParam · kind) := by
  intro nb nb' word v h h'
  simp only [parseWithParam]
  rw [h.bind, h'.bind, local_defaultNla h h']

end TcActionAttribute

/-! ## The kind -/

namespace TcAction

variable {l : List (UInt16 × Bytes)} {kind : String}

/-- The payloads of the attributes that name a kind. -/
abbrev kindPayloads (l : List (UInt16 × Bytes)) : List Bytes :=
  l.filterMap (payloadOf TCA_ACT_KIND)

/-- So is its kind. -/
theorem local_parseKind : Local fun nb => parseKind (.ok nb) := by
  intro nb nb' word v h h'
  simp only [parseKind, Outcome.context_ok, Outcome.ok_bind, h.kind, h'.kind, h.value, h'.value]

/-- The first pass collects the names. -/
theorem forEach_parseKind_eq_ok_iff {names : List String} (hl : Consistent l) :
    List.flatten <$> forEach (fun a => parseKind (.ok (nlaOf a))) l = .ok names ↔
      (kindPayloads l).map textOf = names.map some := by
  induction l generalizing names with
  | nil => cases names <;> simp
  | cons a l ih =>
    obtain ⟨ha, hl⟩ := List.forall_mem_cons.1 hl
    have hc := carries_nlaOf ha
    rw [flatten_forEach_cons, parseKind, Outcome.context_ok, Outcome.ok_bind, hc.kind,
      Outcome.ok_bind, hc.value, Outcome.ok_bind, kindPayloads, List.filterMap_cons, payloadOf]
    by_cases hk : kindOf a = TCA_ACT_KIND
    · rw [if_pos hk, if_pos hk, List.map_cons]
      rcases textOf_cases (v := a.2) List.singleton "failed to parse TCA_ACT_KIND" with
        ⟨s, hs, hp⟩ | ⟨hs, e, hp⟩
      · rw [hp, hs, Outcome.ok_bind, Outcome.map_eq_ok]
        constructor
        · rintro ⟨rest, hrest, rfl⟩
          rw [(ih hl).1 hrest]
          rfl
        · intro h
          cases names with
          | nil => cases h
          | cons s' rest =>
            obtain ⟨hs', hrest⟩ := List.cons.inj h
            obtain rfl := Option.some.inj hs'
            exact ⟨rest, (ih hl).2 hrest, rfl⟩
      · rw [hp, hs]
        cases names <;> simp
    · rw [if_neg hk, if_neg hk, Outcome.ok_bind, ← ih hl]
      cases List.flatten <$> forEach (fun a => parseKind (.ok (nlaOf a))) l <;> rfl

/-- **The kind is the name in the only attribute that names one.** -/
theorem findKind_encodeNlas_eq_ok_iff (hl : Consistent l) :
    findKind (encodeNlas l) = .ok kind ↔ ∃ v, kindPayloads l = [v] ∧ textOf v = some kind := by
  have hloop : findKind (encodeNlas l) = .ok kind ↔
      List.flatten <$> forEach (fun a => parseKind (.ok (nlaOf a))) l = .ok [kind] := by
    rw [findKind, forEach_encodeNlas local_parseKind hl]
    rcases List.flatten <$> forEach (fun a => parseKind (.ok (nlaOf a))) l with names | e | _
    · rcases names with _ | ⟨s, _ | ⟨s', names⟩⟩ <;> simp
    · simp
    · simp
  rw [hloop, forEach_parseKind_eq_ok_iff hl]
  constructor
  · intro h
    obtain ⟨v, hv, hs⟩ := List.map_eq_singleton_iff.1 h
    exact ⟨v, hv, hs⟩
  · rintro ⟨v, hv, hs⟩
    rw [hv, List.map_singleton, hs, List.map_singleton]

/-! ## Any order -/

variable {n : ℕ} {fields : Fin n → UInt16 × Bytes} {tab : UInt16} {nb' : NlaBuffer}

/-- **How an action is read**: attribute by attribute, with the kind that one of
them names. -/
theorem parse_eq_ok_iff {t : TcAction} (hl : Consistent (List.ofFn fields))
    (h : Carries nb tab (encodeNlas (List.ofFn fields))) :
    parse nb = .ok t ↔ t.tab = tab &&& NLA_TYPE_MASK ∧
      ∃ v kind, kindPayloads (List.ofFn fields) = [v] ∧ textOf v = some kind ∧
        ∃ as : Fin n → TcActionAttribute, t.attributes = List.ofFn as ∧
          ∀ i, TcActionAttribute.Reads kind (fields i) (as i) := by
  have hreads : ∀ kind i x, TcActionAttribute.parseWithParam (nlaOf (fields i)) kind = .ok x ↔
      TcActionAttribute.Reads kind (fields i) x := fun kind i x =>
    TcActionAttribute.parseWithParam_eq_ok_iff (carries_nlaOf (consistent_ofFn.1 hl i))
  rw [parse, h.value, Outcome.ok_bind, Outcome.bind_eq_ok]
  simp only [Outcome.ok_bind, parseEach_encodeNlas TcActionAttribute.local_parseWithParam hl,
    h.kind, Outcome.bind_eq_ok, findKind_encodeNlas_eq_ok_iff hl, forEach_ofFn_eq_ok_iff, hreads,
    Outcome.pure_eq, Outcome.ok.injEq]
  constructor
  · rintro ⟨kind, ⟨v, hv, hs⟩, attributes, ⟨as, rfl, has⟩, rfl⟩
    exact ⟨rfl, v, kind, hv, hs, as, rfl, has⟩
  · rintro ⟨htab, v, kind, hv, hs, as, hattributes, has⟩
    refine ⟨kind, ⟨v, hv, hs⟩, _, ⟨as, rfl, has⟩, ?_⟩
    rw [← htab, ← hattributes]

omit [PacketUtils] in
/-- One name is found in any order. -/
theorem kindPayloads_comp {v : Bytes} (σ : Equiv.Perm (Fin n))
    (hv : kindPayloads (List.ofFn fields) = [v]) :
    kindPayloads (List.ofFn (fields ∘ σ)) = [v] := by
  have hperm := (Equiv.Perm.ofFn_comp_perm σ fields).filterMap (payloadOf TCA_ACT_KIND)
  rw [kindPayloads, ← List.perm_singleton]
  rwa [← hv]

omit [PacketUtils] in
/-- A consistent list stays consistent in every order. -/
theorem consistent_comp (σ : Equiv.Perm (Fin n)) (hl : Consistent (List.ofFn fields)) :
    Consistent (List.ofFn (fields ∘ σ)) :=
  consistent_ofFn.2 fun i => consistent_ofFn.1 hl (σ i)

/-- What is read in one order is read in another. -/
theorem parse_comp {t : TcAction} (σ : Equiv.Perm (Fin n)) (hl : Consistent (List.ofFn fields))
    (h : Carries nb tab (encodeNlas (List.ofFn fields)))
    (h' : Carries nb' tab (encodeNlas (List.ofFn (fields ∘ σ)))) {as : Fin n → TcActionAttribute}
    (hattributes : t.attributes = List.ofFn as) (ht : parse nb = .ok t) :
    parse nb' = .ok ⟨t.tab, List.ofFn (as ∘ σ)⟩ := by
  obtain ⟨htab, v, kind, hv, hs, as', has', hread⟩ := (parse_eq_ok_iff hl h).1 ht
  obtain rfl := List.ofFn_injective (has'.symm.trans hattributes)
  exact (parse_eq_ok_iff (consistent_comp σ hl) h').2
    ⟨htab, v, kind, kindPayloads_comp σ hv, hs, as' ∘ σ, rfl, fun i => hread (σ i)⟩

/-- The same attributes in two orders. -/
structure AnyOrder (nb nb' : NlaBuffer) (tab : UInt16) (fields : Fin n → UInt16 × Bytes)
    (σ : Equiv.Perm (Fin n)) : Prop where
  oneKind : (kindPayloads (List.ofFn fields)).length ≠ 1 → ∃ e, parse nb = .err e
  reads : ∀ t, parse nb = .ok t → t.tab = tab &&& NLA_TYPE_MASK ∧
    ∃ v kind, kindPayloads (List.ofFn fields) = [v] ∧ textOf v = some kind ∧
      ∃ as : Fin n → TcActionAttribute, t.attributes = List.ofFn as ∧
        ∀ i, TcActionAttribute.Reads kind (fields i) (as i)
  permuted : ∀ tab' as, parse nb = .ok ⟨tab', List.ofFn as⟩ ↔
    parse nb' = .ok ⟨tab', List.ofFn (as ∘ σ)⟩
  ok_iff : (∃ t, parse nb = .ok t) ↔ ∃ t, parse nb' = .ok t

/-- **The order of its attributes decides nothing else about an action.** -/
theorem parse_anyOrder (σ : Equiv.Perm (Fin n)) (hl : Consistent (List.ofFn fields))
    (h : Carries nb tab (encodeNlas (List.ofFn fields)))
    (h' : Carries nb' tab (encodeNlas (List.ofFn (fields ∘ σ)))) :
    AnyOrder nb nb' tab fields σ := by
  have hl' := consistent_comp σ hl
  -- the other order, taken back
  have hfields : (fields ∘ σ) ∘ σ.symm = fields := (Equiv.comp_symm_eq σ _ _).2 rfl
  have hback : Carries nb tab (encodeNlas (List.ofFn ((fields ∘ σ) ∘ σ.symm))) := by
    rwa [hfields]
  constructor
  case oneKind =>
    intro hcount
    have hne : ∀ kind, findKind (encodeNlas (List.ofFn fields)) ≠ .ok kind := by
      intro kind hkind
      obtain ⟨v, hv, -⟩ := (findKind_encodeNlas_eq_ok_iff hl).1 hkind
      exact hcount (by rw [hv, List.length_singleton])
    rw [parse, h.value, Outcome.ok_bind]
    rcases hf : findKind (encodeNlas (List.ofFn fields)) with kind | e | _
    · exact absurd hf (hne kind)
    · exact ⟨e, rfl⟩
    · exact absurd hf findKind_ne_panic
  case reads => exact fun t ht => (parse_eq_ok_iff hl h).1 ht
  case permuted =>
    intro tab' as
    constructor
    · exact fun ht => parse_comp σ hl h h' rfl ht
    · intro ht
      have has : (as ∘ σ) ∘ σ.symm = as := (Equiv.comp_symm_eq σ _ _).2 rfl
      have hsame := parse_comp σ.symm hl' h' hback rfl ht
      rwa [has] at hsame
  case ok_iff =>
    constructor
    · rintro ⟨t, ht⟩
      obtain ⟨-, v, kind, -, -, as, has, -⟩ := (parse_eq_ok_iff hl h).1 ht
      exact ⟨_, parse_comp σ hl h h' has ht⟩
    · rintro ⟨t, ht⟩
      obtain ⟨-, v, kind, -, -, as, has, -⟩ := (parse_eq_ok_iff hl' h').1 ht
      exact ⟨_, parse_comp σ.symm hl' h' hback has ht⟩

end TcAction

end

/-! ## On a little-endian host -/

namespace TcAction

attribute [local instance] Reference.little

/-- Times of a translation, in front of the kind that says that they are. -/
def optionsThenKind : Fin 2 → UInt16 × Bytes :=
  ![(TCA_ACT_OPTIONS, [8, 0, 2, 0, 1, 2, 3, 4]), (TCA_ACT_KIND, [110, 97, 116, 0])]

/-- They are read as such from both places. -/
theorem optionsThenKind_anyOrder :
    parse (nlaOf (1, encodeNlas (List.ofFn optionsThenKind))) =
      .ok ⟨1, [.options [.nat (.tm [1, 2, 3, 4])], .kind_ "nat"]⟩ ∧
    AnyOrder (nlaOf (1, encodeNlas (List.ofFn optionsThenKind)))
      (nlaOf (1, encodeNlas (List.ofFn (optionsThenKind ∘ Equiv.swap 0 1)))) 1 optionsThenKind
      (Equiv.swap 0 1) :=
  ⟨rfl, parse_anyOrder (Equiv.swap 0 1) (by unfold Consistent; decide)
    (carries_nlaOf (a := (1, _)) (by decide)) (carries_nlaOf (a := (1, _)) (by decide))⟩

end TcAction

end NetlinkRoute
