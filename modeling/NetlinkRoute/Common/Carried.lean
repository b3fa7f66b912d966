import NetlinkRoute.Common.Insert
import NetlinkRoute.Common.Message
/-!
# Attributes, by what they carry

An iterator over a list of attributes hands out buffers that go on to the
end of the list, but a parser looks at one attribute only: at its kind word
and its payload. Such a parser is `Local`, and a loop with it is a loop over
the kind words and payloads themselves (`forEachFrom_encodeNlas`). So is,
over any bytes, a loop that skips errors (`eachOk_eq_flatMap`): it finds what
the attributes in front of the first malformed one carry. Where a parser
hands attributes of kinds that it does not name through, leaving its state
as it is, any number of them can be put in without a change to the others
(`Transparent`).
-/

namespace NetlinkRoute

open PacketUtils

/-- The kind of an attribute, without its flags. -/
abbrev kindOf (a : UInt16 × Bytes) : UInt16 := a.1 &&& NLA_TYPE_MASK

/-- The payload of an attribute of the kind. -/
def payloadOf (kind : UInt16) (a : UInt16 × Bytes) : Option Bytes :=
  if kindOf a = kind then some a.2 else none

/-- The text of a payload, without the terminator. -/
def textOf (v : Bytes) : Option String := ofUtf8? (stripNul v)

/-- Every payload fits its length field. -/
def Consistent (l : List (UInt16 × Bytes)) : Prop := ∀ a ∈ l, a.2.length ≤ 65531

/-- What is put in is consistent, and of kinds that are not named. -/
def UnknownTo (kinds : List UInt16) (ins : List (ℕ × UInt16 × Bytes)) : Prop :=
  ∀ p ∈ ins, p.2.2.length ≤ 65531 ∧ p.2.1 &&& NLA_TYPE_MASK ∉ kinds

/-- An attribute that is handed through, with its kind word and payload. -/
def otherOf {α : Type} (other : DefaultNla → α) (a : UInt16 × Bytes) : α := other ⟨a.1, a.2⟩

/-- **Attributes of kinds that are not named do not change how the others
are read**: with any number of them put in anywhere, `decode` comes back as
without them, and with them put in at the same places in the list that
`onList` finds in what it comes back with. -/
def Transparent {α μ : Type} (kinds : List UInt16) (other : DefaultNla → α)
    (onList : (List α → List α) → μ → μ) (decode : List (UInt16 × Bytes) → Outcome μ) : Prop :=
  ∀ l ins, Consistent l → UnknownTo kinds ins → decode (insertEach l ins) =
    onList (insertEach · (ins.map (Prod.map id (otherOf other)))) <$> decode l

/-- A consistent list stays consistent when attributes of other kinds are
put into it. -/
theorem Consistent.insertEach {l : List (UInt16 × Bytes)} {ins : List (ℕ × UInt16 × Bytes)}
    {kinds : List UInt16} (hl : Consistent l) (hins : UnknownTo kinds ins) :
    Consistent (insertEach l ins) :=
  forall_mem_insertEach hl fun p hp => (hins p hp).1

/-- A list given by its places is consistent when every place fits its
length word. -/
theorem consistent_ofFn {n : ℕ} {fields : Fin n → UInt16 × Bytes} :
    Consistent (List.ofFn fields) ↔ ∀ i, (fields i).2.length ≤ 65531 := by
  constructor
  · exact fun h i => h _ (List.mem_ofFn.2 ⟨i, rfl⟩)
  · intro h a ha
    obtain ⟨i, rfl⟩ := List.mem_ofFn.1 ha
    exact h i

section

variable [PacketUtils]

/-- The attribute, and nothing behind it. -/
def nlaOf (a : UInt16 × Bytes) : NlaBuffer := ⟨encodeNla a.1 a.2⟩

/-- The attribute made of a kind word and a payload carries both. -/
theorem carries_nlaOf {a : UInt16 × Bytes} (h : a.2.length ≤ 65531) :
    Carries (nlaOf a) a.1 a.2 := by
  have hc : Carries ⟨encodeNla a.1 a.2 ++ []⟩ a.1 a.2 := carries_encodeNla h
  rwa [List.append_nil] at hc

/-- The parser looks at the kind word and the payload. -/
def Local {β : Type} (f : NlaBuffer → Outcome β) : Prop :=
  ∀ ⦃nb nb' : NlaBuffer⦄ ⦃word : UInt16⦄ ⦃v : Bytes⦄,
    Carries nb word v → Carries nb' word v → f nb = f nb'

/-- Reading the payload looks at one attribute only. -/
theorem local_value : Local value := by
  intro nb nb' word v h h'
  rw [h.value, h'.value]

theorem local_defaultNla : Local defaultNla := by
  intro nb nb' word v h h'
  rw [h.defaultNla, h'.defaultNla]

/-! ## Texts -/

/-- A string is read exactly where the bytes before the terminator are text.
-/
theorem parseString_eq_ok_iff {v : Bytes} {s : String} :
    parseString v = .ok s ↔ textOf v = some s := by
  rcases hs : textOf v with _ | t
  · obtain ⟨e, he⟩ := parseString_none hs
    simp [he]
  · simp [parseString_some hs]

/-- A string is decoded, or its error handed on. -/
theorem textOf_cases {α : Type} {v : Bytes} (f : String → α) (msg : String) :
    (∃ s, textOf v = some s ∧ f <$> (parseString v).context msg = .ok (f s)) ∨
      textOf v = none ∧ ∃ e, f <$> (parseString v).context msg = .err e := by
  rcases hs : textOf v with _ | s
  · obtain ⟨e, he⟩ := parseString_none hs
    exact .inr ⟨rfl, _, by rw [he]; rfl⟩
  · exact .inl ⟨s, rfl, by rw [parseString_some hs]; rfl⟩

/-! ## The attributes of a buffer -/

section Buffer

variable {b rest : Bytes} {word : UInt16} {v : Bytes} {l : List (UInt16 × Bytes)}

/-- What the attributes of a buffer carry, up to the first that is not
valid. -/
def carried (b : Bytes) : List (UInt16 × Bytes) := (nlas b).filterMap carriedBy
where
  /-- What one item of the iterator carries: errors carry nothing. -/
  carriedBy : Outcome NlaBuffer → Option (UInt16 × Bytes)
    | .ok nb => some (nlaWord nb.buffer, nlaValue nb.buffer)
    | _ => none

@[simp] theorem carried_nil : carried [] = [] := by
  rw [carried, nlas_nil]
  rfl

/-- The list of a payload that starts with a valid attribute is that
attribute and the list of the rest. -/
theorem carried_of_valid (h : NlaValid b) :
    carried b = (nlaWord b, nlaValue b) :: carried (b.drop (nlaAlign (nlaLength b))) := by
  rw [carried, nlas_of_valid h]
  rfl

/-- Behind an attribute that is not valid nothing is found. -/
theorem carried_of_not_valid (h : ¬ NlaValid b) : carried b = [] := by
  by_cases hb : b = []
  · rw [hb, carried_nil]
  · obtain ⟨e, he⟩ := nlas_of_not_valid hb h
    rw [carried, he]
    rfl

/-- What an encoded attribute carries stands at the head of the list. -/
theorem carried_encodeNla (hv : v.length ≤ 65531) :
    carried (encodeNla word v ++ rest) = (word, v) :: carried rest := by
  have hc : Carries ⟨encodeNla word v ++ rest⟩ word v := carries_encodeNla hv
  rw [carried, nlas_encodeNla hv, List.filterMap_cons, carried.carriedBy, hc.word_eq, hc.value_eq]
  rfl

/-- **The attributes in front are found whatever is behind them.** -/
theorem carried_encodeNlas_append (hl : Consistent l) :
    carried (encodeNlas l ++ rest) = l ++ carried rest := by
  induction l with
  | nil => rfl
  | cons a l ih =>
    obtain ⟨ha, hl⟩ := List.forall_mem_cons.1 hl
    rw [encodeNlas_cons, List.append_assoc, carried_encodeNla ha, ih hl, List.cons_append]

/-- An encoded consistent list carries itself. -/
theorem carried_encodeNlas (hl : Consistent l) : carried (encodeNlas l) = l := by
  have h : carried (encodeNlas l ++ []) = l ++ carried [] := carried_encodeNlas_append hl
  rwa [carried_nil, List.append_nil, List.append_nil] at h

/-- Different lists have different bytes. -/
theorem encodeNlas_inj {l' : List (UInt16 × Bytes)} (hl : Consistent l) (hl' : Consistent l') :
    encodeNlas l = encodeNlas l' ↔ l = l' := by
  refine ⟨fun h => ?_, fun h => h ▸ rfl⟩
  rw [← carried_encodeNlas hl, h, carried_encodeNlas hl']

/-- **A loop that skips errors is one over what the attributes carry**,
where its step does not fail. -/
theorem eachOk_eq_flatMap {β : Type} {f : NlaBuffer → Outcome (List β)}
    {g : UInt16 × Bytes → List β}
    (hf : ∀ nb word v, Carries nb word v → f nb = .ok (g (word, v))) :
    eachOk f b = .ok ((carried b).flatMap g) := by
  have hloop : forEach (okOnly f) (nlas b) = .ok ((nlas b).map fun o =>
      ((carried.carriedBy o).map g).getD []) := by
    have hvalid : ∀ nb, .ok nb ∈ nlas b → NlaValid nb.buffer := fun _ => valid_of_mem_nlas
    have hpanic := panic_not_mem_nlas (b := b)
    generalize nlas b = os at hvalid hpanic
    induction os with
    | nil => rfl
    | cons o os ih =>
      obtain ⟨hp, hpanic⟩ := not_or.1 (mt List.mem_cons.2 hpanic)
      have hrest := ih (fun nb hnb => hvalid nb (List.mem_cons_of_mem o hnb)) hpanic
      rw [forEach_cons, hrest]
      cases o with
      | ok nb =>
        rw [okOnly, hf nb _ _ (hvalid nb List.mem_cons_self).carries]
        rfl
      | err e => rfl
      | panic => exact absurd rfl hp
  have hflat : ∀ os : List (Outcome NlaBuffer),
      (os.map fun o => ((carried.carriedBy o).map g).getD []).flatten =
        (os.filterMap carried.carriedBy).flatMap g := by
    intro os
    induction os with
    | nil => rfl
    | cons o os ih =>
      rw [List.map_cons, List.flatten_cons, ih, List.filterMap_cons]
      cases carried.carriedBy o <;> rfl
  rw [eachOk, hloop, Outcome.map_ok, hflat, carried]

/-- A buffer that ends with an attribute: the iterator meets no error. -/
def Intact (b : Bytes) : Prop := ∀ o ∈ nlas b, ∃ nb, o = .ok nb

/-- **A loop that fails on errors** makes something of each attribute of an
intact buffer, and of no other buffer, where its step does not fail. -/
theorem parseEachWith_cases {β : Type} {err : String} {f : NlaBuffer → Outcome β}
    {g : UInt16 × Bytes → β} (hf : ∀ nb word v, Carries nb word v → f nb = .ok (g (word, v))) :
    Intact b ∧ parseEachWith err f b = .ok ((carried b).map g) ∨
      ¬ Intact b ∧ ∃ e, parseEachWith err f b = .err e := by
  induction b using nlas_ind with
  | hnil =>
    refine .inl ⟨by simp [Intact, nlas_nil], ?_⟩
    rw [parseEachWith, nlas_nil, carried_nil]
    rfl
  | hvalid b hv ih =>
    have hintact : Intact b ↔ Intact (b.drop (nlaAlign (nlaLength b))) := by
      simp [Intact, nlas_of_valid hv]
    have hstep : parseEachWith err f b = (do
        let rest ← parseEachWith err f (b.drop (nlaAlign (nlaLength b)))
        .ok (g (nlaWord b, nlaValue b) :: rest)) := by
      rw [parseEachWith, nlas_of_valid hv, forEach_cons, Outcome.context_ok, Outcome.ok_bind,
        hf _ _ _ hv.carries, Outcome.ok_bind, parseEachWith]
    rw [hintact, hstep, carried_of_valid hv, List.map_cons]
    rcases ih with ⟨h, hloop⟩ | ⟨h, e, hloop⟩
    · exact .inl ⟨h, by rw [hloop]; rfl⟩
    · exact .inr ⟨h, e, by rw [hloop]; rfl⟩
  | hbad b hb hv =>
    obtain ⟨e, he⟩ := nlas_of_not_valid hb hv
    refine .inr ⟨by simp [Intact, he], ?_⟩
    rw [parseEachWith, he, forEach_cons]
    exact ⟨_, rfl⟩

end Buffer

/-! ## Loops -/

variable {α σ : Type} {l : List (UInt16 × Bytes)}

/-- **A loop with a local step is one over what the attributes carry.** -/
theorem forEachFrom_encodeNlas {g : σ → NlaBuffer → Outcome (σ × α)} {s : σ}
    (hg : ∀ s, Local (g s)) (hl : Consistent l) :
    forEachFrom (fun s nla => do g s (← nla)) s (nlas (encodeNlas l)) =
      forEachFrom (fun s a => g s (nlaOf a)) s l := by
  have hread := nlas_encodeNlas hl
  generalize nlas (encodeNlas l) = os at hread
  induction hread generalizing s with
  | nil => rfl
  | @cons o a os l ho _ ih =>
    obtain ⟨nb, rfl, hc⟩ := ho
    obtain ⟨ha, hl⟩ := List.forall_mem_cons.1 hl
    have hstep : g s nb = g s (nlaOf a) := hg s hc (carries_nlaOf ha)
    simp only [forEachFrom, Outcome.ok_bind, hstep, ih hl]

/-- Over an encoded list, a parser that looks at one attribute only may be
run on the attributes themselves. -/
theorem forEach_encodeNlas {f : Outcome NlaBuffer → Outcome α}
    (hf : Local fun nb => f (.ok nb)) (hl : Consistent l) :
    forEach f (nlas (encodeNlas l)) = forEach (fun a => f (.ok (nlaOf a))) l := by
  have hread := nlas_encodeNlas hl
  generalize nlas (encodeNlas l) = os at hread
  induction hread with
  | nil => rfl
  | @cons o a os l ho _ ih =>
    obtain ⟨nb, rfl, hc⟩ := ho
    obtain ⟨ha, hl⟩ := List.forall_mem_cons.1 hl
    have hstep : f (.ok nb) = f (.ok (nlaOf a)) := hf hc (carries_nlaOf ha)
    rw [forEach_cons, forEach_cons, ih hl, hstep]

/-- The same for the loop that stops at the first error. -/
theorem parseEach_encodeNlas {f : NlaBuffer → Outcome α} (hf : Local f) (hl : Consistent l) :
    parseEach f (encodeNlas l) = forEach (fun a => f (nlaOf a)) l :=
  forEach_encodeNlas (f := fun nla => do f (← nla)) hf hl

/-- Over an encoded list a loop collects what each attribute gives. -/
theorem parseEach_encodeNlas_eq_map {f : NlaBuffer → Outcome α} {g : UInt16 × Bytes → α}
    (hl : Consistent l) (h : ∀ a nb, Carries nb a.1 a.2 → f nb = .ok (g a)) :
    parseEach f (encodeNlas l) = .ok (l.map g) := by
  rw [parseEach, forEach_eq_ok_iff, List.forall₂_map_right_iff]
  refine (nlas_encodeNlas hl).imp fun o a ho => ?_
  obtain ⟨nb, rfl, hc⟩ := ho
  exact h a nb hc

/-! ## Kinds that are not named -/

variable {kinds : List UInt16} {other : DefaultNla → α}

/-- The step of a loop hands attributes of other kinds through. -/
def PassesOver (kinds : List UInt16) (other : DefaultNla → α)
    (g : σ → NlaBuffer → Outcome (σ × α)) : Prop :=
  ∀ s nb word v, Carries nb word v → word &&& NLA_TYPE_MASK ∉ kinds →
    g s nb = .ok (s, other ⟨word, v⟩)

/-- A stateful loop whose parser passes over unknown kinds leaves each of
them where it stood. -/
theorem transparent_forEachFrom {g : σ → NlaBuffer → Outcome (σ × α)} {s : σ}
    (hg : ∀ s, Local (g s)) (hother : PassesOver kinds other g) :
    Transparent kinds other id fun l =>
      forEachFrom (fun s nla => do g s (← nla)) s (nlas (encodeNlas l)) := by
  intro l ins hl hins
  dsimp only [id]
  rw [forEachFrom_encodeNlas hg hl, forEachFrom_encodeNlas hg (hl.insertEach hins)]
  refine forEachFrom_insertEach fun p hp s => ?_
  obtain ⟨hlen, hk⟩ := hins p hp
  exact hother s _ _ _ (carries_nlaOf hlen) hk

/-- The same for a parser without a state. -/
theorem transparent_parseEach {f : NlaBuffer → Outcome α} (hf : Local f)
    (hother : ∀ nb word v, Carries nb word v → word &&& NLA_TYPE_MASK ∉ kinds →
      f nb = .ok (other ⟨word, v⟩)) :
    Transparent kinds other id fun l => parseEach f (encodeNlas l) := by
  intro l ins hl hins
  dsimp only [id]
  rw [parseEach_encodeNlas hf hl, parseEach_encodeNlas hf (hl.insertEach hins)]
  refine forEach_insertEach fun p hp => ?_
  obtain ⟨hlen, hk⟩ := hins p hp
  exact hother _ _ _ (carries_nlaOf hlen) hk

/-! ## Messages -/

/-- The message with other attributes. -/
def Message.overAttributes {η : Type} (f : List α → List α) (m : Message η α) : Message η α :=
  { m with attributes := f m.attributes }

/-- A message is as transparent as its attributes are. -/
theorem MessageFormat.transparent {η : Type} (F : MessageFormat η α) {hdr : Bytes}
    (hlen : hdr.length = F.header.len)
    (hhdr : ∀ rest, F.header.parse (hdr ++ rest) = F.header.parse hdr)
    (h : ∀ header, Transparent kinds other id fun l => F.parseAttributes header (encodeNlas l)) :
    Transparent kinds other Message.overAttributes fun l => F.decode (hdr ++ encodeNlas l) := by
  -- the header is read from its own bytes, whatever follows them
  have hdec : ∀ rest, F.decode (hdr ++ rest) = (do
      let header ← F.header.parse hdr
      let attributes ← (F.parseAttributes header rest).contextIf F.attributesErr
      .ok ⟨header, attributes⟩) := by
    intro rest
    obtain ⟨header, hh, -, heq⟩ := F.decode_of_le (b := hdr ++ rest) (by
      rw [List.length_append, hlen]
      exact Nat.le_add_right _ _)
    rw [hhdr] at hh
    rw [heq, hh, Outcome.ok_bind, List.drop_left' hlen]
  intro l ins hl hins
  dsimp only
  rw [hdec, hdec]
  cases F.header.parse hdr with
  | ok header =>
    have hattr := h header l ins hl hins
    dsimp only [id] at hattr
    rw [Outcome.ok_bind, Outcome.ok_bind, hattr]
    cases F.parseAttributes header (encodeNlas l) with
    | ok as => simp [Message.overAttributes]
    | err e => cases hmsg : F.attributesErr <;> rfl
    | panic => cases hmsg : F.attributesErr <;> rfl
  | err e => rfl
  | panic => rfl

end

end NetlinkRoute
