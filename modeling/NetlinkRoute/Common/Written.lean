import NetlinkRoute.Common.Carried
/-!
# Attribute lists, as they were written

Whatever a list of attributes is written to, in a zeroed buffer, is the
encoding of one payload for each attribute, in order (`fills_emitNlas_iff`):
no other bytes can come out. So there is nothing in the way of going back
from what is read to what was written, and a list, or a message, comes back
exactly when each of its attributes does (`parseEach_emitted_iff`,
`forEachFrom_emitted_iff`, `MessageFormat.decode_emitted_iff`).
-/

namespace NetlinkRoute

open PacketUtils Emitter

variable [PacketUtils] {n : Nla} {ns : List Nla} {out v w : Bytes}

omit [PacketUtils] in
/-- A payload is the only one. -/
theorem Nla.Payload.eq (h : n.Payload v) (h' : n.Payload w) : v = w :=
  Outcome.ok.inj (Eq.trans (Eq.symm h) h')

/-- The attribute is written with this kind word and payload. -/
def Nla.WrittenAs (n : Nla) (a : UInt16 × Bytes) : Prop := a.1 = n.kind ∧ n.Payload a.2

/-- **One attribute is its header, its payload and padding.** -/
theorem fills_emitNla_iff (hs : n.valueLen ≤ 65531) : Fills (emitNla n) n.bufferLen out ↔
    ∃ a, n.WrittenAs a ∧ out = encodeNla a.1 a.2 := by
  constructor
  · intro h
    have hal := le_nlaAlign n.valueLen
    have hmid : min n.valueLen (n.bufferLen - 4) = n.valueLen := by
      unfold Nla.bufferLen
      omega
    rw [Fills, emitNla_run (frames_of_le hs) (length_zeros _), drop_zeros, take_zeros, hmid] at h
    obtain ⟨v, hv, rfl⟩ := (Outcome.map_eq_ok _).1 h
    have hpay : n.Payload v := hv
    exact ⟨(n.kind, v), ⟨rfl, hpay⟩, by rw [encodeNla, hpay.length_eq]⟩
  · rintro ⟨⟨word, v⟩, ⟨rfl, hv⟩, rfl⟩
    exact hv.fills_emitNla hs

/-- **A list is these, one after another.** -/
theorem fills_emitNlas_iff (hs : ∀ n ∈ ns, n.valueLen ≤ 65531) :
    Fills (emitNlas ns) (nlasLen ns) out ↔
      ∃ l, List.Forall₂ Nla.WrittenAs ns l ∧ out = encodeNlas l := by
  induction ns generalizing out with
  | nil =>
    constructor
    · intro h
      have hnil : Outcome.ok ([] : Bytes) = .ok out := emitNlas_nil.symm.trans h
      exact ⟨[], .nil, (Outcome.ok.inj hnil).symm⟩
    · rintro ⟨l, hl, rfl⟩
      cases hl
      exact emitNlas_nil
  | cons n ns ih =>
    have hcons : Fills (emitNlas (n :: ns)) (nlasLen (n :: ns)) out ↔ ∃ head tail,
        Fills (emitNla n) n.bufferLen head ∧ Fills (emitNlas ns) (nlasLen ns) tail ∧
          out = head ++ tail := by
      rw [Fills, emitNlas_cons (by rw [length_zeros]), nlasLen_cons, take_zeros, drop_zeros,
        Nat.min_eq_left (Nat.le_add_right _ _), Nat.add_sub_cancel_left]
      simp only [Outcome.bind_eq_ok, Outcome.ok.injEq, Fills]
      exact ⟨fun ⟨head, hh, tail, ht, heq⟩ => ⟨head, tail, hh, ht, heq.symm⟩,
        fun ⟨head, tail, hh, ht, heq⟩ => ⟨head, hh, tail, ht, heq.symm⟩⟩
    obtain ⟨hn, hs⟩ := List.forall_mem_cons.1 hs
    rw [hcons]
    constructor
    · rintro ⟨head, tail, hhead, htail, rfl⟩
      obtain ⟨a, ha, rfl⟩ := (fills_emitNla_iff hn).1 hhead
      obtain ⟨l, hl, rfl⟩ := (ih hs).1 htail
      exact ⟨a :: l, .cons ha hl, rfl⟩
    · rintro ⟨l, hl, rfl⟩
      cases hl with
      | cons ha hl =>
        exact ⟨_, _, (fills_emitNla_iff hn).2 ⟨_, ha, rfl⟩, (ih hs).2 ⟨_, hl, rfl⟩, rfl⟩

section Lists

variable {α : Type} {t : α → Nla} {as : List α} {l : List (UInt16 × Bytes)}

omit [PacketUtils] in
/-- What was written of attributes that fit their length fields is
consistent. -/
theorem consistent_of_written (h : List.Forall₂ Nla.WrittenAs (as.map t) l)
    (hs : ∀ a ∈ as, (t a).valueLen ≤ 65531) : Consistent l := by
  induction as generalizing l with
  | nil =>
    cases h
    simp [Consistent]
  | cons a as ih =>
    cases h with
    | cons ha h =>
      obtain ⟨hle, hs⟩ := List.forall_mem_cons.1 hs
      refine List.forall_mem_cons.2 ⟨?_, ih h hs⟩
      rwa [ha.2.length_eq]

/-- **A round trip of one attribute**, by what it is written as. -/
theorem roundTrips_iff_of_written {f : NlaBuffer → Outcome α} {a : α} {c : UInt16 × Bytes}
    (hf : Local f) (hc : n.WrittenAs c) (hs : c.2.length ≤ 65531) :
    RoundTrips f n a ↔ f (nlaOf c) = .ok a := by
  obtain ⟨word, v⟩ := c
  obtain ⟨rfl, hv⟩ := hc
  constructor
  · rintro ⟨w, hw, hp⟩
    rw [hw.eq hv] at hp
    exact hp _ (carries_nlaOf hs)
  · intro h
    exact ⟨v, hv, fun nb hnb => (hf hnb (carries_nlaOf hs)).trans h⟩

/-- **A list comes back exactly when each of its attributes does.** -/
theorem parseEach_emitted_iff {f : NlaBuffer → Outcome α} (hf : Local f)
    (hs : ∀ a ∈ as, (t a).valueLen ≤ 65531) :
    (∃ out, Fills (emitNlas (as.map t)) (nlasLen (as.map t)) out ∧ parseEach f out = .ok as) ↔
      ∀ a ∈ as, RoundTrips f (t a) a := by
  refine ⟨?_, fun h => parseEach_emitted h hs⟩
  rintro ⟨out, hout, hread⟩
  obtain ⟨l, hl, rfl⟩ := (fills_emitNlas_iff (List.forall_mem_map.2 hs)).1 hout
  have hcons := consistent_of_written hl hs
  rw [parseEach_encodeNlas hf hcons, forEach_eq_ok_iff] at hread
  clear hout hs
  induction as generalizing l with
  | nil => simp
  | cons a as ih =>
    cases hl with
    | cons ha hl =>
      cases hread with
      | cons hp hread =>
        obtain ⟨hle, hcons⟩ := List.forall_mem_cons.1 hcons
        refine List.forall_mem_cons.2 ⟨?_, ih _ hl hread hcons⟩
        exact (roundTrips_iff_of_written hf ha hle).2 hp

/-- A list of which each attribute comes back as another does so. -/
theorem parseEach_emitted_as {f : NlaBuffer → Outcome α} {r : α → α} (hf : Local f)
    (h : ∀ a ∈ as, RoundTrips f (t a) (r a)) (hs : ∀ a ∈ as, (t a).valueLen ≤ 65531) :
    ∃ out, Fills (emitNlas (as.map t)) (nlasLen (as.map t)) out ∧
      parseEach f out = .ok (as.map r) := by
  choose! v hv hp using h
  have hle : ∀ a ∈ as, (v a).length ≤ 65531 := fun a ha => by
    rw [(hv a ha).length_eq]
    exact hs a ha
  refine ⟨_, fills_emitNlas hv hs, ?_⟩
  rw [parseEach_encodeNlas hf (List.forall_mem_map.2 hle), forEach_eq_ok_iff,
    List.forall₂_map_left_iff, List.forall₂_map_right_iff, List.forall₂_same]
  exact fun a ha => hp a ha _ (carries_nlaOf (hle a ha))

omit [PacketUtils] in
/-- A list grows by what its attributes do, when these are headers. -/
theorem nlasLen_grown {t' : α → Nla} {c : α → ℕ}
    (h : ∀ a ∈ as, (t' a).valueLen = (t a).valueLen + 4 * c a) :
    nlasLen (as.map t') = nlasLen (as.map t) + 4 * (as.map c).sum := by
  induction as with
  | nil => rfl
  | cons a as ih =>
    obtain ⟨ha, has⟩ := List.forall_mem_cons.1 h
    -- a header is aligned, so that padding stays what it is
    have hal : nlaAlign ((t a).valueLen + 4 * c a) = nlaAlign (t a).valueLen + 4 * c a := by
      unfold nlaAlign
      omega
    simp only [List.map_cons, nlasLen_cons, ih has, List.sum_cons, Nla.bufferLen, ha, hal]
    omega

section State

variable {σ : Type} {g : σ → NlaBuffer → Outcome (σ × α)} {s : σ}

/-- Each attribute comes back in the state that those in front of it
leave. -/
def ReturnsFrom (g : σ → NlaBuffer → Outcome (σ × α)) (t : α → Nla) : σ → List α → Prop
  | _, [] => True
  | s, a :: as => ∃ s', RoundTrips (g s) (t a) (s', a) ∧ ReturnsFrom g t s' as

/-- **A list whose reader carries a state comes back exactly when each
attribute does in its own.** -/
theorem forEachFrom_emitted_iff (hg : ∀ s, Local (g s)) (hs : ∀ a ∈ as, (t a).valueLen ≤ 65531) :
    (∃ out, Fills (emitNlas (as.map t)) (nlasLen (as.map t)) out ∧
      forEachFrom (fun s nla => do g s (← nla)) s (nlas out) = .ok as) ↔
      ReturnsFrom g t s as := by
  constructor
  · rintro ⟨out, hout, hread⟩
    obtain ⟨l, hl, rfl⟩ := (fills_emitNlas_iff (List.forall_mem_map.2 hs)).1 hout
    have hcons := consistent_of_written hl hs
    rw [forEachFrom_encodeNlas hg hcons] at hread
    clear hout hs
    induction as generalizing l s with
    | nil => trivial
    | cons a as ih =>
      cases hl with
      | @cons _ c _ l ha hl =>
        obtain ⟨hle, hcons⟩ := List.forall_mem_cons.1 hcons
        obtain ⟨⟨s', a'⟩, hp, hrest⟩ := (Outcome.bind_eq_ok _ _).1 hread
        obtain ⟨as', has, heq⟩ := (Outcome.bind_eq_ok _ _).1 hrest
        cases heq
        have hrt : RoundTrips (g s) (t a) (s', a) := by
          obtain ⟨word, v⟩ := c
          obtain ⟨rfl, hv⟩ := ha
          exact ⟨v, hv, fun nb hnb => (hg s hnb (carries_nlaOf hle)).trans hp⟩
        exact ⟨s', hrt, ih _ hl has hcons⟩
  · intro h
    induction as generalizing s with
    | nil => exact ⟨[], emitNlas_nil, by simp [nlas_nil, forEachFrom]⟩
    | cons a as ih =>
      obtain ⟨s', ⟨v, hv, hp⟩, h⟩ := h
      obtain ⟨hle, hs⟩ := List.forall_mem_cons.1 hs
      obtain ⟨out, hout, hread⟩ := ih hs h
      have hvle : v.length ≤ 65531 := by rwa [hv.length_eq]
      refine ⟨_, fills_emitNlas_cons hv hle hout, ?_⟩
      rw [nlas_encodeNla hvle, forEachFrom, Outcome.ok_bind, hp _ (carries_encodeNla hvle),
        Outcome.ok_bind]
      dsimp only
      rw [hread]
      rfl

/-- Where an attribute stands, it comes back in some state. -/
theorem ReturnsFrom.of_mem {a : α} (h : ReturnsFrom g t s as) (ha : a ∈ as) :
    ∃ s s', RoundTrips (g s) (t a) (s', a) := by
  induction as generalizing s with
  | nil => cases ha
  | cons c as ih =>
    obtain ⟨s', hc, h⟩ := h
    rcases List.mem_cons.1 ha with rfl | ha
    · exact ⟨s, s', hc⟩
    · exact ih h ha

end State

end Lists

/-! ## Messages -/

namespace MessageFormat

variable {η α : Type} (F : MessageFormat η α) {m : Message η α}

/-- **A message is the bytes of its header and an encoding of its
attributes.** -/
theorem fills_emit_iff (hs : F.Sized m) : Fills (F.emit m) (F.bufferLen m) out ↔
    ∃ l, List.Forall₂ Nla.WrittenAs (m.attributes.map F.nla) l ∧
      out = F.header.bytes m.header ++ encodeNlas l := by
  have hlen := F.header.length_bytes (h := m.header)
  have hsplit : Fills (F.emit m) (F.bufferLen m) out ↔ ∃ tail,
      Fills (emitNlas (m.attributes.map F.nla)) (nlasLen (m.attributes.map F.nla)) tail ∧
        out = F.header.bytes m.header ++ tail := by
    rw [Fills, bufferLen, emit, andThen_run, F.header.run_zeros, Outcome.ok_bind,
      onTail_run (by rw [List.length_append, hlen]; exact Nat.le_add_right _ _),
      List.drop_left' hlen, List.take_left' hlen, Outcome.map_eq_ok]
    constructor
    · rintro ⟨tail, ht, heq⟩
      exact ⟨tail, ht, heq.symm⟩
    · rintro ⟨tail, ht, heq⟩
      exact ⟨tail, ht, heq.symm⟩
  have hlist := fun {tail : Bytes} => @fills_emitNlas_iff _ _ tail (List.forall_mem_map.2 hs)
  rw [hsplit]
  constructor
  · rintro ⟨tail, htail, rfl⟩
    obtain ⟨l, hl, rfl⟩ := hlist.1 htail
    exact ⟨l, hl, rfl⟩
  · rintro ⟨l, hl, rfl⟩
    exact ⟨_, hlist.2 ⟨l, hl, rfl⟩, rfl⟩

/-- **A message with a well-formed header comes back exactly when each of
its attributes does.** -/
theorem decode_emitted_iff {parseAttribute : η → NlaBuffer → Outcome α}
    (hF : F.parseAttributes = fun header => parseEach (parseAttribute header))
    (hlocal : ∀ header, Local (parseAttribute header)) (hw : F.header.WellFormed m.header)
    (hs : F.Sized m) :
    (∃ out, Fills (F.emit m) (F.bufferLen m) out ∧ F.decode out = .ok m) ↔
      ∀ a ∈ m.attributes, RoundTrips (parseAttribute m.header) (F.nla a) a := by
  refine ⟨?_, F.decode_emitted_of hF hw hs⟩
  rintro ⟨out, hout, hdec⟩
  obtain ⟨l, hl, rfl⟩ := (F.fills_emit_iff hs).1 hout
  obtain ⟨-, -, -, hread⟩ := F.decode_eq_ok hdec
  rw [List.drop_left' F.header.length_bytes, hF] at hread
  exact (parseEach_emitted_iff (hlocal m.header) hs).1
    ⟨_, (fills_emitNlas_iff (List.forall_mem_map.2 hs)).2 ⟨l, hl, rfl⟩, hread⟩

end MessageFormat

/-! ## Sent on and on -/

section PassOn

variable {μ : Type} {emit : μ → Emitter} {bufferLen : μ → ℕ} {decode : Bytes → Outcome μ}
  {hop : μ → Outcome μ} {m m' : μ}

omit [PacketUtils] in
/-- What the other side makes of a message: it is written into a zeroed
buffer of its length, and read from there. -/
def passOn (emit : μ → Emitter) (bufferLen : μ → ℕ) (decode : Bytes → Outcome μ) (m : μ) :
    Outcome μ := do
  decode (← (emit m).run (zeros (bufferLen m)))

omit [PacketUtils] in
/-- A message is passed on as another exactly where emitted bytes decode to
it. -/
theorem passOn_eq_ok_iff : passOn emit bufferLen decode m = .ok m' ↔
    ∃ out, Fills (emit m) (bufferLen m) out ∧ decode out = .ok m' :=
  Outcome.bind_eq_ok _ _

/-- So many times. -/
def hops (hop : μ → Outcome μ) : ℕ → μ → Outcome μ
  | 0, m => .ok m
  | n + 1, m => do hops hop n (← hop m)

omit [PacketUtils] in
/-- **Hop by hop**: what one hop does to messages of a kind, so many do,
as long as each leaves one of the kind. -/
theorem hops_of_step {P : μ → Prop} {r : μ → μ} (h : ∀ m, P m → hop m = .ok (r m)) {n : ℕ}
    (hP : ∀ k < n, P (r^[k] m)) : hops hop n m = .ok (r^[n] m) := by
  induction n generalizing m with
  | zero => rfl
  | succ n ih =>
    rw [hops, h m (hP 0 (Nat.succ_pos n)), Outcome.ok_bind, Function.iterate_succ_apply]
    exact ih fun k hk => hP (k + 1) (Nat.succ_lt_succ hk)

omit [PacketUtils] in
/-- A message that one hop does not change, none does. -/
theorem hops_of_eq (h : hop m = .ok m) (n : ℕ) : hops hop n m = .ok m := by
  have hiter := hops_of_step (P := (· = m)) (r := id) (m := m) (n := n) (fun _ hm => hm ▸ h)
    fun k _ => by simp
  simpa using hiter

end PassOn

end NetlinkRoute
