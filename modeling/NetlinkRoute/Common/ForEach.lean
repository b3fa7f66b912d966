import NetlinkRoute.Common.Outcome
/-!
# Loops that collect

`for x in xs { out.push(f(x)?) }` stops at the first step that fails. It
succeeds when every step does (`forEach_eq_ok_iff`) and panics when a
step that it reaches does (`forEach_eq_panic_iff`); a step is reached
when all before it succeeded.
-/

namespace NetlinkRoute

variable {ι α : Type}

/-- `for x in xs { out.push(f(x)?) }`. -/
def forEach (f : ι → Outcome α) : List ι → Outcome (List α)
  | [] => .ok []
  | x :: xs => do
    let a ← f x
    let as ← forEach f xs
    .ok (a :: as)

variable {f : ι → Outcome α} {xs : List ι}

@[simp] theorem forEach_nil : forEach f [] = .ok [] := rfl

@[simp] theorem forEach_cons {x : ι} :
    forEach f (x :: xs) = (do let a ← f x; let as ← forEach f xs; .ok (a :: as)) := rfl

/-- Steps that agree on the elements make loops that do. -/
theorem forEach_congr {g : ι → Outcome α} (h : ∀ x ∈ xs, f x = g x) :
    forEach f xs = forEach g xs := by
  induction xs with
  | nil => rfl
  | cons x xs ih =>
    rw [forEach_cons, forEach_cons, h x (by simp), ih fun y hy => h y (by simp [hy])]

/-- What a first element gives comes in front of what the others give. -/
theorem flatten_forEach_cons {f : ι → Outcome (List α)} {x : ι} :
    List.flatten <$> forEach f (x :: xs) = (do
      let l ← f x
      (l ++ ·) <$> (List.flatten <$> forEach f xs)) := by
  rw [forEach_cons]
  cases f x with
  | ok l => cases forEach f xs <;> rfl
  | err e => rfl
  | panic => rfl

/-- A loop over images. -/
theorem forEach_map {κ : Type} {k : κ → ι} {ks : List κ} :
    forEach f (ks.map k) = forEach (fun x => f (k x)) ks := by
  induction ks with
  | nil => rfl
  | cons x ks ih => rw [List.map_cons, forEach_cons, forEach_cons, ih]

/-- The loop succeeds when each step does. -/
theorem forEach_eq_ok_iff {as : List α} :
    forEach f xs = .ok as ↔ List.Forall₂ (fun x a => f x = .ok a) xs as := by
  induction xs generalizing as with
  | nil => simp [eq_comm]
  | cons x xs ih =>
    simp only [forEach_cons, Outcome.bind_eq_ok, ih, Outcome.ok.injEq, List.forall₂_cons_left_iff]
    constructor
    · rintro ⟨a, ha, as', has, rfl⟩
      exact ⟨a, as', ha, has, rfl⟩
    · rintro ⟨a, as', ha, has, rfl⟩
      exact ⟨a, ha, as', has, rfl⟩

/-- A loop over what is all read ends. -/
theorem exists_forEach_eq_ok (h : ∀ x ∈ xs, ∃ a, f x = .ok a) : ∃ as, forEach f xs = .ok as := by
  induction xs with
  | nil => exact ⟨[], rfl⟩
  | cons x xs ih =>
    obtain ⟨⟨a, ha⟩, hxs⟩ := List.forall_mem_cons.1 h
    obtain ⟨as, has⟩ := ih hxs
    exact ⟨a :: as, by rw [forEach_cons, ha, has]; rfl⟩

/-- What was collected came from a step. -/
theorem exists_of_mem_forEach {as : List α} {a : α} (h : forEach f xs = .ok as) (ha : a ∈ as) :
    ∃ x ∈ xs, f x = .ok a := by
  have hf := forEach_eq_ok_iff.1 h
  induction hf with
  | nil => simp at ha
  | @cons x c xs as hx hxs ih =>
    rcases List.mem_cons.1 ha with rfl | ha
    · exact ⟨x, by simp, hx⟩
    · obtain ⟨y, hy, hya⟩ := ih (forEach_eq_ok_iff.2 hxs) ha
      exact ⟨y, by simp [hy], hya⟩

/-- A loop that makes of each element what another makes of the value that
this one collects. -/
theorem forEach_eq_map {β : Type} {g : ι → Outcome β} {h : α → β} {as : List α}
    (hf : forEach f xs = .ok as) (hg : ∀ x ∈ xs, ∀ a, f x = .ok a → g x = .ok (h a)) :
    forEach g xs = .ok (as.map h) := by
  have hall := forEach_eq_ok_iff.1 hf
  clear hf
  induction hall with
  | nil => rfl
  | @cons x a xs as hx _ ih =>
    rw [forEach_cons, hg x (by simp) a hx, ih fun y hy => hg y (by simp [hy])]
    rfl

/-- The step reached: every step before it succeeded. -/
def Reached (f : ι → Outcome α) (xs : List ι) (x : ι) : Prop :=
  ∃ pre post, xs = pre ++ x :: post ∧ ∀ y ∈ pre, ∃ a, f y = .ok a

/-- Only elements are reached. -/
theorem Reached.mem {x : ι} (h : Reached f xs x) : x ∈ xs := by
  obtain ⟨pre, post, rfl, -⟩ := h
  simp

/-- The first element is reached, and the others when it comes back. -/
theorem reached_cons_iff {x y : ι} :
    Reached f (x :: xs) y ↔ y = x ∨ (∃ a, f x = .ok a) ∧ Reached f xs y := by
  constructor
  · rintro ⟨pre, post, h, hpre⟩
    cases pre with
    | nil => exact .inl (by simpa using (List.cons.inj h).1.symm)
    | cons z pre =>
      obtain ⟨rfl, rfl⟩ := List.cons.inj h
      exact .inr ⟨hpre x (by simp), pre, post, rfl, fun w hw => hpre w (by simp [hw])⟩
  · rintro (rfl | ⟨hx, pre, post, rfl, hpre⟩)
    · exact ⟨[], xs, rfl, by simp⟩
    · refine ⟨x :: pre, post, rfl, fun z hz => ?_⟩
      rcases List.mem_cons.1 hz with rfl | hz
      · exact hx
      · exact hpre z hz

/-- **The loop panics when a step it reaches does.** -/
theorem forEach_eq_panic_iff : forEach f xs = .panic ↔ ∃ x, Reached f xs x ∧ f x = .panic := by
  induction xs with
  | nil => simp [Reached]
  | cons x xs ih =>
    simp only [forEach_cons, Outcome.bind_eq_panic, reached_cons_iff]
    constructor
    · rintro (h | ⟨a, ha, h⟩)
      · exact ⟨x, .inl rfl, h⟩
      · rcases h with h | ⟨as, -, h⟩
        · obtain ⟨y, hy, h⟩ := ih.1 h
          exact ⟨y, .inr ⟨⟨a, ha⟩, hy⟩, h⟩
        · cases h
    · rintro ⟨y, rfl | ⟨⟨a, ha⟩, hy⟩, h⟩
      · exact .inl h
      · exact .inr ⟨a, ha, .inl (ih.2 ⟨y, hy, h⟩)⟩

/-- A loop over steps that do not panic does not. -/
theorem forEach_ne_panic (h : ∀ x ∈ xs, f x ≠ .panic) : forEach f xs ≠ .panic := by
  intro hp
  obtain ⟨x, hx, hfx⟩ := forEach_eq_panic_iff.1 hp
  exact h x hx.mem hfx

/-! ## Loops that carry a state -/

section State

variable {σ : Type} {g : σ → ι → Outcome (σ × α)} {s t : σ}

/-- A loop over `xs` whose steps hand a state on. -/
def forEachFrom (g : σ → ι → Outcome (σ × α)) : σ → List ι → Outcome (List α)
  | _, [] => .ok []
  | s, x :: xs => do
    let (s', a) ← g s x
    let as ← forEachFrom g s' xs
    .ok (a :: as)

/-- Steps that agree in all states make loops that do. -/
theorem forEachFrom_congr {h : σ → ι → Outcome (σ × α)} (heq : ∀ s, ∀ x ∈ xs, g s x = h s x) :
    forEachFrom g s xs = forEachFrom h s xs := by
  induction xs generalizing s with
  | nil => rfl
  | cons x xs ih =>
    rw [forEachFrom, forEachFrom, heq s x (by simp)]
    have hrest : ∀ s', forEachFrom g s' xs = forEachFrom h s' xs :=
      fun s' => ih fun s y hy => heq s y (by simp [hy])
    simp only [hrest]

/-- The step reached, with the state it starts in. -/
inductive ReachedFrom (g : σ → ι → Outcome (σ × α)) : σ → List ι → σ → ι → Prop where
  /-- The first step is reached. -/
  | here {s : σ} {x : ι} {xs : List ι} : ReachedFrom g s (x :: xs) s x
  /-- A step behind one that succeeded. -/
  | there {s s' t : σ} {x y : ι} {xs : List ι} {a : α} (hx : g s x = .ok (s', a))
      (h : ReachedFrom g s' xs t y) : ReachedFrom g s (x :: xs) t y

/-- Only elements are reached, in any state. -/
theorem ReachedFrom.mem {x : ι} (h : ReachedFrom g s xs t x) : x ∈ xs := by
  induction h with
  | here => simp
  | there _ _ ih => exact List.mem_cons_of_mem _ ih

/-- **The loop panics when a step it reaches does.** -/
theorem forEachFrom_eq_panic_iff : forEachFrom g s xs = .panic ↔
    ∃ t x, ReachedFrom g s xs t x ∧ g t x = .panic := by
  induction xs generalizing s with
  | nil =>
    refine iff_of_false (by simp [forEachFrom]) ?_
    rintro ⟨t, x, h, -⟩
    cases h
  | cons x xs ih =>
    rw [forEachFrom, Outcome.bind_eq_panic]
    constructor
    · rintro (h | ⟨⟨s', a⟩, ha, h⟩)
      · exact ⟨s, x, .here, h⟩
      · rcases (Outcome.bind_eq_panic _ _).1 h with h | ⟨as, -, h⟩
        · obtain ⟨t, y, hy, hp⟩ := ih.1 h
          exact ⟨t, y, .there ha hy, hp⟩
        · cases h
    · rintro ⟨t, y, hy, hp⟩
      cases hy with
      | here => exact .inl hp
      | there hx hy =>
        refine .inr ⟨_, hx, ?_⟩
        rw [Outcome.bind_eq_panic]
        exact .inl (ih.2 ⟨t, y, hy, hp⟩)

/-- A step that a loop got to gave one of the values that it collected. -/
theorem exists_of_reachedFrom {as : List α} {x : ι} (h : ReachedFrom g s xs t x)
    (hok : forEachFrom g s xs = .ok as) : ∃ t' a, g t x = .ok (t', a) ∧ a ∈ as := by
  induction h generalizing as with
  | here =>
    simp only [forEachFrom, Outcome.bind_eq_ok] at hok
    obtain ⟨⟨t', a⟩, ha, as', -, hok⟩ := hok
    cases hok
    exact ⟨t', a, ha, by simp⟩
  | there hx _ ih =>
    simp only [forEachFrom, hx, Outcome.ok_bind, Outcome.bind_eq_ok] at hok
    obtain ⟨as', has, hok⟩ := hok
    cases hok
    obtain ⟨t', a, ha, hmem⟩ := ih has
    exact ⟨t', a, ha, by simp [hmem]⟩

/-- And each of these comes from such a step. -/
theorem exists_reachedFrom_of_mem {as : List α} {a : α} (hok : forEachFrom g s xs = .ok as)
    (ha : a ∈ as) : ∃ t x t', ReachedFrom g s xs t x ∧ g t x = .ok (t', a) := by
  induction xs generalizing s as with
  | nil =>
    cases hok
    simp at ha
  | cons x xs ih =>
    simp only [forEachFrom, Outcome.bind_eq_ok] at hok
    obtain ⟨⟨s', c⟩, hx, as', has, hok⟩ := hok
    cases hok
    rcases List.mem_cons.1 ha with rfl | ha
    · exact ⟨s, x, s', .here, hx⟩
    · obtain ⟨t, y, t', hr, hy⟩ := ih has ha
      exact ⟨t, y, t', .there hx hr, hy⟩

/-- In a loop that came to its end, where a step leaves the state that its
element stands for, each element is reached with the state that those in
front of it leave. -/
theorem reachedFrom_iff_of_ok {after : σ → ι → σ} {as : List α}
    (hg : ∀ s s' a, ∀ x ∈ xs, g s x = .ok (s', a) → s' = after s x)
    (hok : forEachFrom g s xs = .ok as) :
    ReachedFrom g s xs t x ↔ ∃ pre post, xs = pre ++ x :: post ∧ t = pre.foldl after s := by
  constructor
  · intro h
    -- the steps in front of a reached one all succeeded: induction on how it is reached
    induction h generalizing as with
    | here => exact ⟨[], _, rfl, rfl⟩
    | there hx _ ih =>
      simp only [forEachFrom, hx, Outcome.ok_bind, Outcome.bind_eq_ok] at hok
      obtain ⟨as', has, -⟩ := hok
      obtain ⟨pre, post, rfl, ht⟩ := ih (fun s s' a y hy => hg s s' a y (by simp [hy])) has
      refine ⟨_ :: pre, post, rfl, ?_⟩
      rw [ht, List.foldl_cons, hg _ _ _ _ (by simp) hx]
  · rintro ⟨pre, post, rfl, rfl⟩
    -- and the loop goes through all in front of it, since it came to its end
    induction pre generalizing s as with
    | nil => exact .here
    | cons y pre ih =>
      simp only [List.cons_append, forEachFrom, Outcome.bind_eq_ok] at hok
      obtain ⟨⟨s', a⟩, hy, as', has, -⟩ := hok
      rw [List.foldl_cons, ← hg _ _ _ _ (by simp) hy]
      exact .there hy (ih (fun s s' a z hz => hg s s' a z (by simp [hz])) has)

/-- Along a list, each element fits the state that those before it leave. -/
def Threaded (Fits : σ → α → Prop) (after : σ → α → σ) : σ → List α → Prop
  | _, [] => True
  | s, a :: as => Fits s a ∧ Threaded Fits after (after s a) as

/-- Each element fits in some state. -/
theorem Threaded.of_mem {Fits : σ → α → Prop} {after : σ → α → σ} {s : σ} {as : List α} {a : α}
    (h : Threaded Fits after s as) (ha : a ∈ as) : ∃ s, Fits s a := by
  induction as generalizing s with
  | nil => cases ha
  | cons b as ih =>
    rcases List.mem_cons.1 ha with rfl | ha
    · exact ⟨s, h.1⟩
    · exact ih h.2 ha

/-- What the steps of a loop come back with, where each fits its state and
leaves the one that it stands for, is threaded. -/
theorem threaded_of_forEachFrom {Fits : σ → α → Prop} {after : σ → α → σ} {as : List α}
    (hg : ∀ s, ∀ x ∈ xs, (g s x).Holds fun r => Fits s r.2 ∧ r.1 = after s r.2)
    (h : forEachFrom g s xs = .ok as) : Threaded Fits after s as := by
  induction xs generalizing s as with
  | nil =>
    cases h
    trivial
  | cons x xs ih =>
    simp only [forEachFrom, Outcome.bind_eq_ok] at h
    obtain ⟨⟨s', a⟩, ha, as', has, h⟩ := h
    cases h
    obtain ⟨hfits, hs'⟩ := hg s x (by simp) _ ha
    refine ⟨hfits, ?_⟩
    rw [← show s' = after s a from hs']
    exact ih (fun s y hy => hg s y (by simp [hy])) has

/-- What each step comes back with has `P`. -/
theorem holds_forEachFrom {P : α → Prop} (hg : ∀ s, ∀ x ∈ xs, (g s x).Holds fun r => P r.2) :
    (forEachFrom g s xs).Holds fun as => ∀ a ∈ as, P a := by
  induction xs generalizing s with
  | nil => simp [forEachFrom]
  | cons x xs ih =>
    rw [forEachFrom]
    refine Outcome.holds_bind.2 fun r hr => Outcome.holds_bind.2 fun as has => ?_
    have hhead : P r.2 := hg s x (by simp) r hr
    have htail : ∀ a ∈ as, P a := ih (fun s y hy => hg s y (by simp [hy])) as has
    exact (Outcome.holds_ok _).2 (List.forall_mem_cons.2 ⟨hhead, htail⟩)

/-- One value for each element, which it has to the element and those in
front of it. -/
def EachWith (R : List ι → ι → α → Prop) (xs : List ι) (as : List α) : Prop :=
  as.length = xs.length ∧
    ∀ pre x post, xs = pre ++ x :: post → ∃ a, as[pre.length]? = some a ∧ R pre x a

/-- The first element has nothing in front of it, and the others have it. -/
theorem eachWith_cons {R : List ι → ι → α → Prop} {x : ι} {a : α} {as : List α} :
    EachWith R (x :: xs) (a :: as) ↔ R [] x a ∧ EachWith (fun pre => R (x :: pre)) xs as := by
  constructor
  · rintro ⟨hlen, h⟩
    obtain ⟨c, hc, hr⟩ := h [] x xs rfl
    obtain rfl := Option.some.inj hc
    refine ⟨hr, Nat.succ.inj hlen, fun pre y post heq => ?_⟩
    exact h (x :: pre) y post (by rw [heq, List.cons_append])
  · rintro ⟨hr, hlen, h⟩
    refine ⟨congrArg Nat.succ hlen, fun pre y post heq => ?_⟩
    cases pre with
    | nil =>
      obtain ⟨rfl, -⟩ := List.cons.inj heq
      exact ⟨a, rfl, hr⟩
    | cons z pre =>
      obtain ⟨rfl, hrest⟩ := List.cons.inj heq
      exact h pre y post hrest

/-- **A loop whose state is known from the elements in front**: it collects
for each element a value that it has to these. -/
theorem forEachFrom_eq_ok_iff {st : List ι → σ} {R : List ι → ι → α → Prop}
    (hg : ∀ pre, ∀ x ∈ xs, ∀ s' a, g (st pre) x = .ok (s', a) ↔
      R pre x a ∧ s' = st (pre ++ [x])) {pre : List ι} {as : List α} :
    forEachFrom g (st pre) xs = .ok as ↔ EachWith (fun front => R (pre ++ front)) xs as := by
  induction xs generalizing pre as with
  | nil =>
    have hnil : EachWith (fun front => R (pre ++ front)) [] as ↔ as = [] :=
      ⟨fun h => List.length_eq_zero_iff.1 h.1, fun h => h ▸ ⟨rfl, by simp⟩⟩
    rw [hnil, forEachFrom, Outcome.ok.injEq, eq_comm]
  | cons x xs ih =>
    have ih := fun {pre : List ι} {as : List α} =>
      @ih (fun pre y hy => hg pre y (List.mem_cons_of_mem x hy)) pre as
    have hcons : forEachFrom g (st pre) (x :: xs) = .ok as ↔ ∃ a rest, as = a :: rest ∧
        R pre x a ∧ forEachFrom g (st (pre ++ [x])) xs = .ok rest := by
      simp only [forEachFrom, Outcome.bind_eq_ok]
      constructor
      · rintro ⟨⟨s', a⟩, hx, rest, hrest, heq⟩
        obtain ⟨hr, rfl⟩ := (hg pre x List.mem_cons_self s' a).1 hx
        exact ⟨a, rest, (Outcome.ok.inj heq).symm, hr, hrest⟩
      · rintro ⟨a, rest, rfl, hr, hrest⟩
        exact ⟨_, (hg pre x List.mem_cons_self _ a).2 ⟨hr, rfl⟩, rest, hrest, rfl⟩
    rw [hcons]
    constructor
    · rintro ⟨a, rest, rfl, hr, hrest⟩
      rw [ih] at hrest
      refine eachWith_cons.2 ⟨by rwa [List.append_nil], ?_⟩
      simpa using hrest
    · intro h
      cases as with
      | nil => exact absurd h.1 (by simp)
      | cons a rest =>
        obtain ⟨hr, hrest⟩ := eachWith_cons.1 h
        rw [List.append_nil] at hr
        refine ⟨a, rest, rfl, hr, ih.2 ?_⟩
        simpa using hrest

/-- There are such values when there is one for each element. -/
theorem exists_eachWith_iff {R : List ι → ι → α → Prop} :
    (∃ as, EachWith R xs as) ↔ ∀ pre x post, xs = pre ++ x :: post → ∃ a, R pre x a := by
  constructor
  · rintro ⟨as, -, h⟩ pre x post heq
    obtain ⟨a, -, hr⟩ := h pre x post heq
    exact ⟨a, hr⟩
  · intro h
    induction xs generalizing R with
    | nil => exact ⟨[], rfl, by simp⟩
    | cons x xs ih =>
      obtain ⟨a, ha⟩ := h [] x xs rfl
      obtain ⟨as, has⟩ := ih fun pre y post heq =>
        h (x :: pre) y post (by rw [heq, List.cons_append])
      exact ⟨a :: as, eachWith_cons.2 ⟨ha, has⟩⟩

end State

end NetlinkRoute
