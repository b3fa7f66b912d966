import NetlinkRoute.Common.Sequence
/-!
# Failures — the first one decides

A decoder that takes its elements one after the other comes back from the
first that it does not take, and what it comes back with is what that one
gives it behind those in front (`FirstDecides`). This is so of loops
(`firstDecides_forEachFrom`), it passes from one decoder to another that
keeps apart what was decoded and what was not (`FirstDecides.of_eq`), and
so it is so of messages (`MessageFormat.Sequential.firstDecides`).
-/

namespace NetlinkRoute

open PacketUtils

/-! ## Lists -/

section Lists

variable {ι α σ μ ν : Type} {P : ι → Prop} {D : List ι → Outcome μ} {E : List ι → Outcome ν}
  {l : List ι} {r : Outcome μ}

/-- All in front of some element is decoded, and with it this comes back. -/
def FirstFailure (D : List ι → Outcome μ) (l : List ι) (r : Outcome μ) : Prop :=
  ∃ pre x post, l = pre ++ x :: post ∧ (∃ m, D pre = .ok m) ∧ D (pre ++ [x]) = r

/-- What comes back of elements with `P`, when it is no value, is what comes
back of some first of them. -/
def FirstDecides (P : ι → Prop) (D : List ι → Outcome μ) : Prop :=
  ∀ l, (∀ x ∈ l, P x) → ∀ r, (∀ m, r ≠ .ok m) → (D l = r ↔ FirstFailure D l r)

/-- What holds of the whole list holds of the part before an element and of
that part with it. -/
theorem forall_upto {pre post : List ι} {x : ι} (h : ∀ y ∈ pre ++ x :: post, P y) :
    (∀ y ∈ pre, P y) ∧ ∀ y ∈ pre ++ [x], P y := by
  rw [List.forall_mem_append, List.forall_mem_cons] at h
  rw [List.forall_mem_append, List.forall_mem_singleton]
  exact ⟨h.1, h.1, h.2.1⟩

/-- No decoder of lists that takes all of them has a first failure. -/
theorem firstDecides_of_ok (h : ∀ l, (∀ x ∈ l, P x) → ∃ m, D l = .ok m) : FirstDecides P D := by
  intro l hl r hr
  obtain ⟨m, hm⟩ := h l hl
  refine iff_of_false (fun heq => hr m (heq ▸ hm)) ?_
  rintro ⟨pre, x, post, rfl, -, hx⟩
  obtain ⟨m', hm'⟩ := h (pre ++ [x]) (forall_upto hl).2
  exact hr m' (hx ▸ hm')

/-- Another decoder that is decided by what this one comes back with, and
decodes the same. -/
theorem FirstDecides.of_eq {K : Outcome μ → Outcome ν} (hD : FirstDecides P D)
    (hK : ∀ o, (∃ m, K o = .ok m) ↔ ∃ m, o = .ok m)
    (hE : ∀ l, (∀ x ∈ l, P x) → E l = K (D l)) : FirstDecides P E := by
  intro l hl r hr
  have hfailed : ∀ o, K o = r → ∀ m, o ≠ .ok m := by
    rintro o hKo m rfl
    obtain ⟨m', hm'⟩ := (hK _).2 ⟨m, rfl⟩
    exact hr m' (hKo ▸ hm')
  rw [hE l hl]
  constructor
  · intro h
    obtain ⟨pre, x, post, rfl, hpre, hx⟩ := (hD l hl _ (hfailed _ h)).1 rfl
    refine ⟨pre, x, post, rfl, ?_, ?_⟩
    · rw [hE pre (forall_upto hl).1]
      exact (hK _).2 hpre
    · rw [hE (pre ++ [x]) (forall_upto hl).2, hx, h]
  · rintro ⟨pre, x, post, rfl, hpre, hx⟩
    rw [hE pre (forall_upto hl).1] at hpre
    rw [hE (pre ++ [x]) (forall_upto hl).2] at hx
    have hwhole : D (pre ++ x :: post) = D (pre ++ [x]) :=
      (hD _ hl _ (hfailed _ hx)).2 ⟨pre, x, post, rfl, (hK _).1 hpre, rfl⟩
    rw [hwhole, hx]

/-- Either both come back with a value, or both with the same failure. -/
def FailsAlike (o o' : Outcome μ) : Prop :=
  o = o' ∨ (∃ m, o = .ok m) ∧ ∃ m, o' = .ok m

/-- Outcomes that fail alike agree on every failure. -/
theorem FailsAlike.eq_iff {o o' : Outcome μ} (h : FailsAlike o o') (hr : ∀ m, r ≠ .ok m) :
    o = r ↔ o' = r := by
  rcases h with rfl | ⟨⟨m, rfl⟩, ⟨m', rfl⟩⟩
  · rfl
  · exact iff_of_false (fun h => hr m h.symm) fun h => hr m' h.symm

/-- A wrapper that keeps success apart from failure keeps outcomes alike. -/
theorem FailsAlike.of_eq {K : Outcome μ → Outcome ν} {o o' : Outcome μ} (h : FailsAlike o o')
    (hK : ∀ o, (∃ m, K o = .ok m) ↔ ∃ m, o = .ok m) : FailsAlike (K o) (K o') := by
  rcases h with rfl | ⟨h, h'⟩
  · exact .inl rfl
  · exact .inr ⟨(hK o).2 h, (hK o').2 h'⟩

theorem failsAlike_map {o : Outcome μ} {f : μ → μ} : FailsAlike o (f <$> o) := by
  cases o with
  | ok m => exact .inr ⟨⟨m, rfl⟩, ⟨f m, rfl⟩⟩
  | err e => exact .inl rfl
  | panic => exact .inl rfl

/-- What a loop does behind an element that it takes. -/
theorem forEachFrom_cons_of_ok {g : σ → ι → Outcome (σ × α)} {s s' : σ} {x : ι} {a : α}
    (hx : g s x = .ok (s', a)) :
    forEachFrom g s (x :: l) = (fun as => a :: as) <$> forEachFrom g s' l := by
  rw [forEachFrom, hx, Outcome.ok_bind]
  cases h : forEachFrom g s' l <;> simp [h]

/-- **A loop is decided by the first element that it does not take.** -/
theorem firstDecides_forEachFrom {g : σ → ι → Outcome (σ × α)} {s : σ} :
    FirstDecides P (forEachFrom g s) := by
  intro l hl r hr
  clear hl
  induction l generalizing s with
  | nil =>
    refine iff_of_false (fun h => hr _ h.symm) ?_
    rintro ⟨pre, x, post, h, -⟩
    simp at h
  | cons x xs ih =>
    by_cases hx : ∃ s' a, g s x = .ok (s', a)
    · obtain ⟨s', a, hx⟩ := hx
      rw [forEachFrom_cons_of_ok hx, ← failsAlike_map.eq_iff hr, ih]
      constructor
      · rintro ⟨pre, y, post, rfl, ⟨as, has⟩, hy⟩
        refine ⟨x :: pre, y, post, rfl, ⟨a :: as, ?_⟩, ?_⟩
        · rw [forEachFrom_cons_of_ok hx, has, Outcome.map_ok]
        · rw [List.cons_append, forEachFrom_cons_of_ok hx, ← failsAlike_map.eq_iff hr, hy]
      · rintro ⟨pre, y, post, heq, ⟨as, has⟩, hy⟩
        cases pre with
        | nil =>
          obtain ⟨rfl, rfl⟩ := List.cons.inj heq
          rw [List.nil_append, forEachFrom_cons_of_ok hx, ← failsAlike_map.eq_iff hr] at hy
          exact absurd hy.symm (hr [])
        | cons z pre =>
          obtain ⟨rfl, rfl⟩ := List.cons.inj heq
          rw [forEachFrom_cons_of_ok hx, Outcome.map_eq_ok] at has
          obtain ⟨rest, hrest, -⟩ := has
          rw [List.cons_append, forEachFrom_cons_of_ok hx, ← failsAlike_map.eq_iff hr] at hy
          exact ⟨pre, y, post, rfl, ⟨rest, hrest⟩, hy⟩
    · -- it comes back here, whatever is behind
      have hstop : ∀ ys, forEachFrom g s (x :: ys) = forEachFrom g s [x] := by
        intro ys
        rw [forEachFrom, forEachFrom]
        cases hg : g s x with
        | ok p => exact absurd ⟨p.1, p.2, hg⟩ hx
        | err e => rfl
        | panic => rfl
      rw [hstop]
      constructor
      · exact fun h => ⟨[], x, xs, rfl, ⟨[], rfl⟩, h⟩
      · rintro ⟨pre, y, post, heq, ⟨as, has⟩, hy⟩
        cases pre with
        | nil =>
          obtain ⟨rfl, rfl⟩ := List.cons.inj heq
          exact hy
        | cons z pre =>
          obtain ⟨rfl, rfl⟩ := List.cons.inj heq
          rw [forEachFrom, Outcome.bind_eq_ok] at has
          obtain ⟨p, hp, -⟩ := has
          exact absurd ⟨p.1, p.2, hp⟩ hx

/-- A loop without a state. -/
theorem firstDecides_forEach {f : ι → Outcome α} : FirstDecides P (forEach f) := by
  have h : forEach f = forEachFrom (fun _ x => (fun a => ((), a)) <$> f x) () :=
    funext fun l => forEach_eq_forEachFrom
  rw [h]
  exact firstDecides_forEachFrom

/-- What a loop does behind elements that it takes. -/
theorem forEach_append_of_ok {f : ι → Outcome α} {xs : List ι} {as : List α}
    (h : forEach f xs = .ok as) : forEach f (xs ++ l) = (fun bs => as ++ bs) <$> forEach f l := by
  induction xs generalizing as with
  | nil =>
    cases h
    exact (id_map _).symm
  | cons x xs ih =>
    rw [forEach_cons, Outcome.bind_eq_ok] at h
    obtain ⟨a, ha, h⟩ := h
    obtain ⟨bs, hbs, h⟩ := (Outcome.bind_eq_ok _ _).1 h
    cases h
    rw [List.cons_append, forEach_cons, ha, Outcome.ok_bind, ih hbs]
    cases forEach f l <;> rfl

end Lists

/-! ## Messages -/

section Messages

variable [PacketUtils] {η α σ : Type} {F : MessageFormat η α} {start : η → σ}
  {g : η → σ → NlaBuffer → Outcome (σ × α)} {hdr : Bytes}

/-- **A message is decided by the first attribute that is not taken.** -/
theorem MessageFormat.Sequential.firstDecides (hF : F.Sequential start g)
    (hlen : hdr.length = F.header.len) :
    FirstDecides (fun a => a.2.length ≤ 65531) fun l => F.decode (hdr ++ encodeNlas l) := by
  obtain ⟨header, -, hdec⟩ := hF.decode_encodeNlas hlen
  refine .of_eq (K := fun o => do .ok ⟨header, ← o.contextIf F.attributesErr⟩)
    firstDecides_forEachFrom (fun o => ?_) hdec
  simp only [Outcome.bind_eq_ok, Outcome.contextIf_eq_ok, Outcome.ok.injEq]
  constructor
  · rintro ⟨-, as, has, -⟩
    exact ⟨as, has⟩
  · rintro ⟨as, has⟩
    exact ⟨_, as, has, rfl⟩

end Messages

end NetlinkRoute
