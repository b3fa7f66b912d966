import Mathlib.Data.List.Infix
import NetlinkRoute.Common.Carried
/-!
# Messages, as headers and sequences of attributes

A decoder that reads its header from the bytes of the header, and each
attribute by its kind word and payload (`MessageFormat.Sequential`), sees
nothing else of a message: what pads an attribute makes no difference
(`MessageFormat.Sequential.decode_congr`), and of a message that was cut
short it makes an error, or the attributes that were left
(`MessageFormat.Sequential.decode_take`). Where no state goes from one
attribute to the next, their order is that of what it makes of them, and
decides nothing else (`MessageFormat.Each.decode_comp`).
-/

namespace NetlinkRoute

open PacketUtils

variable [PacketUtils] {α σ : Type} {b b' p p' : Bytes} {k : ℕ}

/-! ## Bytes that carry the same -/

/-- What an attribute carries fits its length field. -/
theorem consistent_carried : Consistent (carried b) := by
  induction b using nlas_ind with
  | hnil => simp [Consistent]
  | hvalid b hv ih =>
    rw [carried_of_valid hv]
    have hlen := hv.length_value
    have hmax := UInt16.toNat_lt (ne.toU16 (b.take 2))
    refine List.forall_mem_cons.2 ⟨?_, ih⟩
    unfold nlaLength at hlen
    dsimp only
    omega
  | hbad b hb hv =>
    rw [carried_of_not_valid hv]
    simp [Consistent]

/-- **A loop with a local step sees of its buffer what the attributes
carry**, when the buffer ends with one. -/
theorem forEachFrom_carried {g : σ → NlaBuffer → Outcome (σ × α)} {s : σ} (hg : ∀ s, Local (g s))
    (h : Intact p) : forEachFrom (fun s nla => do g s (← nla)) s (nlas p) =
      forEachFrom (fun s a => g s (nlaOf a)) s (carried p) := by
  induction p using nlas_ind generalizing s with
  | hnil => simp [nlas_nil, forEachFrom]
  | hvalid p hv ih =>
    have hrest : Intact (p.drop (nlaAlign (nlaLength p))) := by
      simpa [Intact, nlas_of_valid hv] using h
    have hlen := consistent_carried (b := p)
    rw [carried_of_valid hv] at hlen
    have hstep : g s ⟨p⟩ = g s (nlaOf (nlaWord p, nlaValue p)) :=
      hg s (show NlaValid (NlaBuffer.mk p).buffer from hv).carries
        (carries_nlaOf (List.forall_mem_cons.1 hlen).1)
    rw [nlas_of_valid hv, carried_of_valid hv, forEachFrom, forEachFrom, Outcome.ok_bind, hstep]
    refine bind_congr fun r => ?_
    obtain ⟨s', a⟩ := r
    dsimp only
    rw [ih hrest]
  | hbad p hp hv =>
    obtain ⟨e, he⟩ := nlas_of_not_valid hp hv
    simp [Intact, he] at h

/-- And it does not come to its end where the buffer does not. -/
theorem intact_of_forEachFrom {g : σ → NlaBuffer → Outcome (σ × α)} {s : σ} {as : List α}
    (h : forEachFrom (fun s nla => do g s (← nla)) s (nlas p) = .ok as) : Intact p := by
  induction p using nlas_ind generalizing s as with
  | hnil => simp [Intact, nlas_nil]
  | hvalid p hv ih =>
    rw [nlas_of_valid hv, forEachFrom] at h
    obtain ⟨r, -, h⟩ := (Outcome.bind_eq_ok _ _).1 h
    obtain ⟨as', has, -⟩ := (Outcome.bind_eq_ok _ _).1 h
    simpa [Intact, nlas_of_valid hv] using ih has
  | hbad p hp hv =>
    obtain ⟨e, he⟩ := nlas_of_not_valid hp hv
    rw [he] at h
    cases h

/-! ## Buffers that are cut short -/

/-- An attribute that is not cut is what it was. -/
theorem carries_take (hv : NlaValid p) (hk : nlaLength p ≤ k) :
    Carries ⟨p.take k⟩ (nlaWord p) (nlaValue p) ∧ nlaLength (p.take k) = nlaLength p := by
  have h4 := hv.1
  have hlen : nlaLength (p.take k) = nlaLength p := by
    rw [nlaLength, nlaLength, List.take_take, Nat.min_eq_left (by omega)]
  refine ⟨⟨⟨by rw [hlen]; exact h4, ?_⟩, ?_, ?_⟩, hlen⟩
  · show nlaLength (p.take k) ≤ (p.take k).length
    rw [hlen, List.length_take]
    exact Nat.le_min.2 ⟨hk, hv.2⟩
  · show nlaWord (p.take k) = nlaWord p
    rw [nlaWord, nlaWord, List.drop_take, List.take_take, Nat.min_eq_left (by omega)]
  · show nlaValue (p.take k) = nlaValue p
    rw [nlaValue, nlaValue, hlen, List.take_take, Nat.min_eq_left hk]

/-- And one that is cut is none. -/
theorem not_valid_take (hk : k < nlaLength p) : ¬ NlaValid (p.take k) := by
  rintro ⟨h4, hle⟩
  have hlen := List.length_take_le k p
  -- the length field is whole, since four bytes are there
  have hsame : nlaLength (p.take k) = nlaLength p := by
    rw [nlaLength, nlaLength, List.take_take, Nat.min_eq_left (by omega)]
  omega

/-- **Of a buffer that is cut short a loop makes an error, or the first of
what it made of the whole.** -/
theorem forEachFrom_take {g : σ → NlaBuffer → Outcome (σ × α)} {s : σ} {as : List α}
    (hg : ∀ s, Local (g s)) (h : forEachFrom (fun s nla => do g s (← nla)) s (nlas p) = .ok as) :
    (∃ e, forEachFrom (fun s nla => do g s (← nla)) s (nlas (p.take k)) = .err e) ∨
      ∃ n, forEachFrom (fun s nla => do g s (← nla)) s (nlas (p.take k)) = .ok (as.take n) := by
  induction p using nlas_ind generalizing s as k with
  | hnil => exact .inr ⟨0, by simp [nlas_nil, forEachFrom]⟩
  | hvalid p hv ih =>
    rw [nlas_of_valid hv, forEachFrom] at h
    obtain ⟨⟨s', a⟩, hstep, h⟩ := (Outcome.bind_eq_ok _ _).1 h
    obtain ⟨as', has, heq⟩ := (Outcome.bind_eq_ok _ _).1 h
    cases heq
    rcases Nat.lt_or_ge k (nlaLength p) with hlt | hge
    · -- the first attribute is cut: there is nothing, or an error
      by_cases hnil : p.take k = []
      · exact .inr ⟨0, by simp [hnil, nlas_nil, forEachFrom]⟩
      · obtain ⟨e, he⟩ := nlas_of_not_valid hnil (not_valid_take hlt)
        exact .inl ⟨_, by rw [he]; rfl⟩
    · obtain ⟨hc, hlen⟩ := carries_take hv hge
      have hfirst : g s ⟨p.take k⟩ = .ok (s', a) :=
        (hg s hc (show NlaValid (NlaBuffer.mk p).buffer from hv).carries).trans hstep
      have hrest : (p.take k).drop (nlaAlign (nlaLength (p.take k))) =
          (p.drop (nlaAlign (nlaLength p))).take (k - nlaAlign (nlaLength p)) := by
        rw [hlen, List.drop_take]
      have hloop : forEachFrom (fun s nla => do g s (← nla)) s (nlas (p.take k)) = (do
          let as ← forEachFrom (fun s nla => do g s (← nla)) s'
            (nlas ((p.drop (nlaAlign (nlaLength p))).take (k - nlaAlign (nlaLength p))))
          .ok (a :: as)) := by
        rw [nlas_of_valid hc.valid, forEachFrom, Outcome.ok_bind, hfirst, Outcome.ok_bind, hrest]
      rcases ih (k := k - nlaAlign (nlaLength p)) has with ⟨e, he⟩ | ⟨n, hn⟩
      · exact .inl ⟨e, by rw [hloop, he]; rfl⟩
      · exact .inr ⟨n + 1, by rw [hloop, hn]; rfl⟩
  | hbad p hp hv =>
    obtain ⟨e, he⟩ := nlas_of_not_valid hp hv
    rw [he] at h
    cases h

/-- A loop without a state is one with a state that says nothing. -/
theorem parseEach_eq_forEachFrom {f : NlaBuffer → Outcome α} : parseEach f p =
    forEachFrom (fun (_ : Unit) nla => do (fun a => ((), a)) <$> f (← nla)) () (nlas p) := by
  rw [parseEach, forEach_eq_forEachFrom]
  congr 1
  funext _ nla
  cases nla <;> rfl

/-- The same for a loop without a state. -/
theorem parseEach_congr_carried {f : NlaBuffer → Outcome α} (hf : Local f) (h : Intact p)
    (h' : Intact p') (hc : carried p = carried p') : parseEach f p = parseEach f p' := by
  have hlocal : ∀ _ : Unit, Local fun nb => (fun a => ((), a)) <$> f nb :=
    fun _ _ _ _ _ hnb hnb' => congrArg (fun o => (fun a => ((), a)) <$> o) (hf hnb hnb')
  rw [parseEach_eq_forEachFrom, parseEach_eq_forEachFrom, forEachFrom_carried hlocal h,
    forEachFrom_carried hlocal h', hc]

/-- Cut anywhere, a payload that was accepted is refused or gives a prefix
of its attributes. -/
theorem parseEach_take {f : NlaBuffer → Outcome α} {as : List α} (hf : Local f)
    (h : parseEach f p = .ok as) : (∃ e, parseEach f (p.take k) = .err e) ∨
      ∃ n, parseEach f (p.take k) = .ok (as.take n) := by
  rw [parseEach_eq_forEachFrom] at h ⊢
  exact forEachFrom_take (fun _ _ _ _ _ hnb hnb' =>
    congrArg (fun o => (fun a => ((), a)) <$> o) (hf hnb hnb')) h

/-- What is carried of a buffer that is cut short. -/
theorem carried_take : ∃ n, carried (p.take k) = (carried p).take n := by
  induction p using nlas_ind generalizing k with
  | hnil => exact ⟨0, by simp⟩
  | hvalid p hv ih =>
    rcases Nat.lt_or_ge k (nlaLength p) with hlt | hge
    · exact ⟨0, by rw [carried_of_not_valid (not_valid_take hlt), List.take_zero]⟩
    · obtain ⟨hc, hlen⟩ := carries_take hv hge
      obtain ⟨n, hn⟩ := ih (k := k - nlaAlign (nlaLength p))
      refine ⟨n + 1, ?_⟩
      have hvalid : NlaValid (p.take k) := hc.valid
      have hword : nlaWord (p.take k) = nlaWord p := hc.word_eq
      have hvalue : nlaValue (p.take k) = nlaValue p := hc.value_eq
      rw [carried_of_valid hvalid, carried_of_valid hv, hword, hvalue, hlen, List.drop_take, hn,
        List.take_succ_cons]
  | hbad p hp hv =>
    refine ⟨0, carried_of_not_valid fun hvalid => hv ?_⟩
    obtain ⟨h4, hle⟩ := hvalid
    have htake := List.length_take_le k p
    have hlen : nlaLength (p.take k) = nlaLength p := by
      rw [nlaLength, nlaLength, List.take_take, Nat.min_eq_left (by omega)]
    have hlen' := List.length_take_le' k p
    exact ⟨by omega, by omega⟩

/-! ## Attributes that are put in -/

/-- The list, with what becomes of attributes that are not known put in at
their places. -/
def withOthers (other : DefaultNla → α) (ins : List (ℕ × UInt16 × Bytes)) (as : List α) : List α :=
  insertEach as (ins.map (Prod.map id (otherOf other)))

omit [PacketUtils] in
/-- What is decoded without them is decoded with them. -/
theorem Transparent.decode_eq {μ : Type} {kinds : List UInt16} {other : DefaultNla → α}
    {onList : (List α → List α) → μ → μ} {decode : List (UInt16 × Bytes) → Outcome μ}
    {l : List (UInt16 × Bytes)} {ins : List (ℕ × UInt16 × Bytes)} {m : μ}
    (ht : Transparent kinds other onList decode) (hl : Consistent l) (hins : UnknownTo kinds ins)
    (h : decode l = .ok m) : decode (insertEach l ins) = .ok (onList (withOthers other ins) m) := by
  rw [ht l ins hl hins, h]
  rfl

/-! ## Messages -/

/-- Of these bytes the decoder makes an error, or a first part of what there
was. -/
def Shortens {μ : Type} (decode : Bytes → Outcome μ) (first : ℕ → μ) (b : Bytes) : Prop :=
  (∃ e, decode b = .err e) ∨ ∃ n, decode b = .ok (first n)

/-- A parser that sees of a string only so many bytes sees them in front of
any others. -/
def ReadsOwn {η : Type} (parse : Bytes → Outcome η) (n : ℕ) : Prop :=
  ∀ hdr rest : Bytes, hdr.length = n → parse (hdr ++ rest) = parse hdr

omit [PacketUtils] in
/-- A header reads the bytes of its own length and no others. -/
theorem ReadsOwn.parse_take {η : Type} {parse : Bytes → Outcome η} {n : ℕ}
    (h : ReadsOwn parse n) (hle : n ≤ b.length) : parse (b.take n) = parse b := by
  have hlen : (b.take n).length = n := by
    rw [List.length_take]
    exact Nat.min_eq_left hle
  have happend := h (b.take n) (b.drop n) hlen
  rw [List.take_append_drop] at happend
  exact happend.symm

omit [PacketUtils] in
/-- And where they are all that is left. -/
theorem ReadsOwn.parse_cut {η : Type} {parse : Bytes → Outcome η} {n : ℕ}
    (h : ReadsOwn parse n) (hle : n ≤ (b.take k).length) : parse (b.take k) = parse b := by
  have hlen := List.length_take_le k b
  have hlen' := List.length_take_le' k b
  rw [← h.parse_take hle, List.take_take, Nat.min_eq_left (by omega), h.parse_take (by omega)]

/-- The strings have the same header of this size, and behind it attributes
that carry the same. Each ends with one. -/
structure SameAttributes (n : ℕ) (b b' : Bytes) : Prop where
  le : n ≤ b.length
  header : b.take n = b'.take n
  carried : carried (b.drop n) = carried (b'.drop n)
  intact : Intact (b.drop n)
  intact' : Intact (b'.drop n)

theorem SameAttributes.le' {n : ℕ} (h : SameAttributes n b b') : n ≤ b'.length := by
  have hlen := congrArg List.length h.header
  simp only [List.length_take] at hlen
  have hle := h.le
  omega

/-- The relation is symmetric, lengths included. -/
theorem SameAttributes.symm {n : ℕ} (h : SameAttributes n b b') : SameAttributes n b' b where
  le := h.le'
  header := h.header.symm
  carried := h.carried.symm
  intact := h.intact'
  intact' := h.intact

/-- Their headers are the same. -/
theorem SameAttributes.parse_eq {η : Type} {parse : Bytes → Outcome η} {n : ℕ}
    (h : SameAttributes n b b') (hp : ReadsOwn parse n) : parse b = parse b' := by
  rw [← hp.parse_take h.le, h.header, hp.parse_take h.le']

namespace MessageFormat

variable {η : Type} {F : MessageFormat η α} {start : η → σ}
  {g : η → σ → NlaBuffer → Outcome (σ × α)} {m : Message η α}

/-- The header is read from its own bytes, and each attribute by what it
carries, with a state that those in front of it leave. -/
structure Sequential (F : MessageFormat η α) (start : η → σ)
    (g : η → σ → NlaBuffer → Outcome (σ × α)) : Prop where
  header : ReadsOwn F.header.parse F.header.len
  attributes : ∀ h payload, F.parseAttributes h payload =
    forEachFrom (fun s nla => do g h s (← nla)) (start h) (nlas payload)
  isLocal : ∀ h s, Local (g h s)

/-- One attribute after the other, and no state. -/
structure Each (F : MessageFormat η α) (f : η → NlaBuffer → Outcome α) : Prop where
  header : ReadsOwn F.header.parse F.header.len
  attributes : F.parseAttributes = fun h => parseEach (f h)
  isLocal : ∀ h, Local (f h)

/-- A format without a state is one whose state is trivial. -/
theorem Each.sequential {f : η → NlaBuffer → Outcome α} (hF : F.Each f) :
    F.Sequential (fun _ => ()) fun h _ nb => (fun a => ((), a)) <$> f h nb where
  header := hF.header
  attributes h payload := (congrFun (congrFun hF.attributes h) payload).trans
    parseEach_eq_forEachFrom
  isLocal h _ _ _ _ _ hc hc' :=
    congrArg (fun o => (fun a => ((), a)) <$> o) (hF.isLocal h hc hc')

namespace Sequential

variable (hF : F.Sequential start g)

include hF

/-- **What pads the attributes makes no difference**: strings with the same
header, and attributes that carry the same, are decoded alike. -/
theorem decode_congr (h : SameAttributes F.header.len b b') : F.decode b = F.decode b' := by
  obtain ⟨header, hh, -, heq⟩ := F.decode_of_le h.le
  obtain ⟨header', hh', -, heq'⟩ := F.decode_of_le h.le'
  rw [h.parse_eq hF.header, hh'] at hh
  obtain rfl := Outcome.ok.inj hh
  rw [heq, heq', hF.attributes, hF.attributes, forEachFrom_carried (hF.isLocal _) h.intact,
    forEachFrom_carried (hF.isLocal _) h.intact', h.carried]

/-- **Of a message that is cut short the decoder makes an error, or the
attributes that are left.** -/
theorem decode_take (h : F.decode b = .ok m) :
    Shortens F.decode (fun n => ⟨m.header, m.attributes.take n⟩) (b.take k) := by
  obtain ⟨hle, hh, -, has⟩ := F.decode_eq_ok h
  rcases Nat.lt_or_ge k F.header.len with hlt | hge
  · refine .inl (F.decode_of_lt ?_)
    rw [List.length_take]
    omega
  · have hle' : F.header.len ≤ (b.take k).length := by
      rw [List.length_take]
      omega
    obtain ⟨header, hheader, -, heq⟩ := F.decode_of_le hle'
    rw [hF.header.parse_cut hle', hh] at hheader
    obtain rfl := Outcome.ok.inj hheader
    rw [List.drop_take, hF.attributes] at heq
    rw [hF.attributes] at has
    rcases forEachFrom_take (k := k - F.header.len) (hF.isLocal _) has with ⟨e, he⟩ | ⟨n, hn⟩
    · rw [he] at heq
      refine .inl ?_
      cases hctx : F.attributesErr with
      | none => exact ⟨e, by rw [heq, hctx]; rfl⟩
      | some msg => exact ⟨_, by rw [heq, hctx]; rfl⟩
    · rw [hn, Outcome.contextIf_ok] at heq
      exact .inr ⟨n, heq⟩

end Sequential

section Encoded

variable {hdr : Bytes} {l : List (UInt16 × Bytes)}

/-- Behind a header, the attributes are decoded in the states that they
leave. -/
theorem Sequential.decode_encodeNlas (hF : F.Sequential start g)
    (hlen : hdr.length = F.header.len) : ∃ header, F.header.parse hdr = .ok header ∧
      ∀ l, Consistent l → F.decode (hdr ++ encodeNlas l) = (do
        let attributes ← (forEachFrom (fun s a => g header s (nlaOf a)) (start header) l).contextIf
          F.attributesErr
        .ok ⟨header, attributes⟩) := by
  obtain ⟨header, hh, -⟩ := F.header.parse_of_le hdr hlen.ge
  refine ⟨header, hh, fun l hl => ?_⟩
  have hle : F.header.len ≤ (hdr ++ encodeNlas l).length := by
    rw [List.length_append, hlen]
    exact Nat.le_add_right _ _
  obtain ⟨header', hh', -, heq⟩ := F.decode_of_le hle
  rw [hF.header _ _ hlen, hh] at hh'
  obtain rfl := Outcome.ok.inj hh'
  rw [heq, List.drop_left' hlen, hF.attributes, forEachFrom_encodeNlas (hF.isLocal header) hl]

/-- How a message that carries these attributes is decoded: the header from
its own bytes, and the attributes in the states that they leave. -/
theorem Sequential.decode_encodeNlas_eq_ok_iff (hF : F.Sequential start g)
    (hlen : hdr.length = F.header.len) (hl : Consistent l) :
    F.decode (hdr ++ encodeNlas l) = .ok m ↔ F.header.parse hdr = .ok m.header ∧
      forEachFrom (fun s a => g m.header s (nlaOf a)) (start m.header) l = .ok m.attributes := by
  obtain ⟨header, hh, hdec⟩ := hF.decode_encodeNlas hlen
  rw [hdec l hl, hh]
  constructor
  · intro h
    obtain ⟨as, has, hm⟩ := (Outcome.bind_eq_ok _ _).1 h
    obtain rfl := Outcome.ok.inj hm
    exact ⟨rfl, Outcome.contextIf_eq_ok.1 has⟩
  · rintro ⟨h, has⟩
    obtain rfl := Outcome.ok.inj h
    exact (Outcome.bind_eq_ok _ _).2 ⟨_, Outcome.contextIf_eq_ok.2 has, rfl⟩

/-- The same where there is no state. -/
theorem Each.decode_encodeNlas_eq_ok_iff {f : η → NlaBuffer → Outcome α} (hF : F.Each f)
    (hlen : hdr.length = F.header.len) (hl : Consistent l) :
    F.decode (hdr ++ encodeNlas l) = .ok m ↔ F.header.parse hdr = .ok m.header ∧
      forEach (fun a => f m.header (nlaOf a)) l = .ok m.attributes := by
  rw [hF.sequential.decode_encodeNlas_eq_ok_iff hlen hl, forEach_eq_forEachFrom]

/-- **A message is decoded exactly when each of its attributes is, in a
message of its own**, and to what these are decoded to. -/
theorem Each.decode_eq_ok_iff_alone {f : η → NlaBuffer → Outcome α} (hF : F.Each f)
    (hlen : hdr.length = F.header.len) (hl : Consistent l) :
    F.decode (hdr ++ encodeNlas l) = .ok m ↔ F.decode hdr = .ok ⟨m.header, []⟩ ∧
      List.Forall₂ (fun a x => F.decode (hdr ++ encodeNlas [a]) = .ok ⟨m.header, [x]⟩)
        l m.attributes := by
  have hnone : F.decode hdr = .ok ⟨m.header, []⟩ ↔ F.header.parse hdr = .ok m.header := by
    have h := hF.decode_encodeNlas_eq_ok_iff (m := ⟨m.header, []⟩) hlen
      (show Consistent [] from fun _ ha => absurd ha List.not_mem_nil)
    simpa using h
  have hone : ∀ a ∈ l, ∀ x, F.header.parse hdr = .ok m.header →
      (F.decode (hdr ++ encodeNlas [a]) = .ok ⟨m.header, [x]⟩ ↔
        f m.header (nlaOf a) = .ok x) := by
    intro a ha x hh
    rw [hF.decode_encodeNlas_eq_ok_iff hlen (List.forall_mem_singleton.2 (hl a ha)),
      forEach_eq_ok_iff]
    simp [hh]
  rw [hF.decode_encodeNlas_eq_ok_iff hlen hl, hnone, forEach_eq_ok_iff]
  refine and_congr_right fun hh => ?_
  rw [List.forall₂_iff_get, List.forall₂_iff_get]
  simp only [hone _ (List.get_mem l _) _ hh]

/-- **The order of the attributes is that of what the decoder makes of
them**, and decides nothing else: what stands at a place of the new order is
what was made of the attribute that is there. -/
theorem Each.decode_comp {f : η → NlaBuffer → Outcome α} {n : ℕ} {fields : Fin n → UInt16 × Bytes}
    (hF : F.Each f) (hlen : hdr.length = F.header.len) (hl : ∀ i, (fields i).2.length ≤ 65531)
    (τ : Equiv.Perm (Fin n)) (h : F.decode (hdr ++ encodeNlas (List.ofFn fields)) = .ok m) :
    ∃ as : Fin n → α, m.attributes = List.ofFn as ∧
      F.decode (hdr ++ encodeNlas (List.ofFn (fields ∘ τ))) =
        .ok ⟨m.header, List.ofFn (as ∘ τ)⟩ := by
  have hl' : ∀ i, ((fields ∘ τ) i).2.length ≤ 65531 := fun i => hl (τ i)
  obtain ⟨hh, has⟩ := (hF.decode_encodeNlas_eq_ok_iff hlen (consistent_ofFn.2 hl)).1 h
  obtain ⟨as, hattr, has⟩ := forEach_ofFn_eq_ok_iff.1 has
  refine ⟨as, hattr, (hF.decode_encodeNlas_eq_ok_iff hlen (consistent_ofFn.2 hl')).2 ⟨hh, ?_⟩⟩
  exact forEach_ofFn_eq_ok_iff.2 ⟨as ∘ τ, rfl, fun i => has (τ i)⟩

end Encoded

/-- Attributes of kinds that the parser does not name can be put in
anywhere. -/
theorem Each.transparent {f : η → NlaBuffer → Outcome α} {hdr : Bytes} {kinds : List UInt16}
    {other : DefaultNla → α} (hF : F.Each f) (hlen : hdr.length = F.header.len)
    (hother : ∀ h nb word v, Carries nb word v → word &&& NLA_TYPE_MASK ∉ kinds →
      f h nb = .ok (other ⟨word, v⟩)) :
    Transparent kinds other Message.overAttributes fun l => F.decode (hdr ++ encodeNlas l) := by
  refine F.transparent hlen (fun rest => hF.header hdr rest hlen) fun header => ?_
  rw [hF.attributes]
  exact transparent_parseEach (hF.isLocal header) (hother header)

end MessageFormat

end NetlinkRoute
