import NetlinkRoute.Common.ForEach
/-!
# Loops over lists with something put in

A step that leaves the state of a loop as it found it is not noticed by the
others: a loop over a list with such an element put in collects what the
loop over the list does, with the value of that step put in at the same
place (`forEachFrom_insertIdx`), and so for any number of them
(`forEachFrom_insertEach`).
-/

namespace NetlinkRoute

variable {ι α β : Type}

/-- The list with elements put in, one after another, each at its index.
An index behind the end puts in nothing. -/
def insertEach (l : List α) (ins : List (ℕ × α)) : List α :=
  ins.foldl (fun l p => l.insertIdx p.1 p.2) l

variable {xs : List ι} {ins : List (ℕ × ι)}

@[simp] theorem insertEach_nil : insertEach xs [] = xs := rfl

@[simp] theorem insertEach_cons {p : ℕ × ι} :
    insertEach xs (p :: ins) = insertEach (xs.insertIdx p.1 p.2) ins := rfl

/-- What one element does not change, many do not. -/
theorem insertEach_invariant {F : List ι → β}
    (h : ∀ p ∈ ins, ∀ l i, F (l.insertIdx i p.2) = F l) : F (insertEach xs ins) = F xs := by
  induction ins generalizing xs with
  | nil => rfl
  | cons p ins ih =>
    obtain ⟨hp, hins⟩ := List.forall_mem_cons.1 h
    rw [insertEach_cons, ih hins, hp]

/-- An element stands between what is in front of its place and what is
behind. -/
theorem insertIdx_eq_take_drop {x : ι} {i : ℕ} (hi : i ≤ xs.length) :
    xs.insertIdx i x = xs.take i ++ x :: xs.drop i := by
  induction xs generalizing i with
  | nil =>
    obtain rfl := Nat.le_zero.1 hi
    rfl
  | cons y xs ih =>
    cases i with
    | zero => rfl
    | succ i =>
      rw [List.insertIdx_succ_cons, ih (Nat.le_of_succ_le_succ hi)]
      rfl

/-- What holds of all elements and of those put in holds of all. -/
theorem forall_mem_insertEach {P : ι → Prop} (hl : ∀ x ∈ xs, P x) (hins : ∀ p ∈ ins, P p.2) :
    ∀ x ∈ insertEach xs ins, P x := by
  induction ins generalizing xs with
  | nil => exact hl
  | cons p ins ih =>
    obtain ⟨hp, hins⟩ := List.forall_mem_cons.1 hins
    refine ih (fun x hx => ?_) hins
    rcases List.eq_or_mem_of_mem_insertIdx hx with rfl | hx
    · exact hp
    · exact hl x hx

/-! ## Searches and joins -/

/-- A search does not stop at an element that it does not look for. -/
theorem findSome?_insertIdx {f : ι → Option α} {x : ι} (hx : f x = none) (i : ℕ) :
    (xs.insertIdx i x).findSome? f = xs.findSome? f := by
  induction xs generalizing i with
  | nil => cases i <;> simp [hx]
  | cons y xs ih =>
    cases i with
    | zero => simp [hx]
    | succ i => rw [List.insertIdx_succ_cons, List.findSome?_cons, List.findSome?_cons, ih]

/-- Elements without an answer are not noticed by a search. -/
theorem findSome?_insertEach {f : ι → Option α} (h : ∀ p ∈ ins, f p.2 = none) :
    (insertEach xs ins).findSome? f = xs.findSome? f :=
  insertEach_invariant fun p hp _ i => findSome?_insertIdx (h p hp) i

/-- What gives nothing adds nothing. -/
theorem flatMap_insertEach {g : ι → List α} (h : ∀ p ∈ ins, g p.2 = []) :
    (insertEach xs ins).flatMap g = xs.flatMap g := by
  refine insertEach_invariant fun p hp l i => ?_
  induction l generalizing i with
  | nil => cases i <;> simp [h p hp]
  | cons x l ih =>
    cases i with
    | zero => simp [h p hp]
    | succ i => rw [List.insertIdx_succ_cons, List.flatMap_cons, List.flatMap_cons, ih]

/-- Empty lists add nothing. -/
theorem flatten_insertEach {ls : List (List α)} {ins : List (ℕ × List α)}
    (h : ∀ p ∈ ins, p.2 = []) : (insertEach ls ins).flatten = ls.flatten := by
  rw [← List.flatMap_id, ← List.flatMap_id]
  exact flatMap_insertEach h

/-! ## The last answer -/

section Last

variable {f : ι → Option α} {ys : List ι} {x : ι}

/-- What the last element with an answer answers. -/
def lastSome? (f : ι → Option α) (l : List ι) : Option α := l.reverse.findSome? f

@[simp] theorem lastSome?_nil : lastSome? f [] = none := rfl

@[simp] theorem lastSome?_singleton : lastSome? f [x] = f x := List.findSome?_singleton

/-- There is no last answer when there is none. -/
theorem lastSome?_eq_none_iff : lastSome? f xs = none ↔ ∀ x ∈ xs, f x = none := by
  simp [lastSome?]

/-- The last answer is that of an element. -/
theorem exists_of_lastSome?_eq_some {b : α} (h : lastSome? f xs = some b) :
    ∃ x ∈ xs, f x = some b := by
  obtain ⟨x, hx, hb⟩ := List.exists_of_findSome?_eq_some h
  exact ⟨x, List.mem_reverse.1 hx, hb⟩

/-- What comes later decides. -/
theorem lastSome?_append : lastSome? f (xs ++ ys) = (lastSome? f ys).or (lastSome? f xs) := by
  rw [lastSome?, List.reverse_append, List.findSome?_append]
  rfl

/-- The last element is asked first. -/
theorem lastSome?_concat : lastSome? f (xs ++ [x]) = (f x).or (lastSome? f xs) := by
  rw [lastSome?_append, lastSome?_singleton]

/-- The first element is asked last. -/
theorem lastSome?_cons : lastSome? f (x :: xs) = (lastSome? f xs).or (f x) := by
  rw [← List.singleton_append, lastSome?_append, lastSome?_singleton]

/-- An element without an answer can be put in anywhere. -/
theorem lastSome?_insertIdx (hx : f x = none) (i : ℕ) :
    lastSome? f (xs.insertIdx i x) = lastSome? f xs := by
  induction xs generalizing i with
  | nil => cases i <;> simp [hx]
  | cons y xs ih =>
    cases i with
    | zero => rw [List.insertIdx_zero, lastSome?_cons, hx, Option.or_none]
    | succ i => rw [List.insertIdx_succ_cons, lastSome?_cons, lastSome?_cons, ih]

/-- Elements without an answer can be left out. -/
theorem lastSome?_filter {p : ι → Bool} (h : ∀ x ∈ xs, p x = false → f x = none) :
    lastSome? f (xs.filter p) = lastSome? f xs := by
  induction xs with
  | nil => rfl
  | cons y xs ih =>
    obtain ⟨hy, hxs⟩ := List.forall_mem_cons.1 h
    cases hp : p y with
    | true => rw [List.filter_cons_of_pos hp, lastSome?_cons, lastSome?_cons, ih hxs]
    | false =>
      rw [List.filter_cons_of_neg (by simp [hp]), lastSome?_cons, ih hxs, hy hp, Option.or_none]

/-- Elements without an answer are not noticed from the end either. -/
theorem lastSome?_insertEach (h : ∀ p ∈ ins, f p.2 = none) :
    lastSome? f (insertEach xs ins) = lastSome? f xs :=
  insertEach_invariant fun p hp _ i => lastSome?_insertIdx (h p hp) i

end Last

/-! ## Loops -/

/-- A loop without a state. -/
theorem forEach_eq_forEachFrom {f : ι → Outcome α} :
    forEach f xs = forEachFrom (fun (_ : Unit) x => (fun a => ((), a)) <$> f x) () xs := by
  induction xs with
  | nil => rfl
  | cons x xs ih =>
    rw [forEach_cons, forEachFrom, ih]
    cases f x <;> rfl

section State

variable {σ : Type} {g : σ → ι → Outcome (σ × α)} {s : σ} {x : ι} {u : α}

/-- **A step that leaves every state as it is can be put in anywhere.** -/
theorem forEachFrom_insertIdx (hx : ∀ s, g s x = .ok (s, u)) (i : ℕ) :
    forEachFrom g s (xs.insertIdx i x) = (·.insertIdx i u) <$> forEachFrom g s xs := by
  -- in front of a list the step only adds its value
  have hfront : ∀ s ys, forEachFrom g s (x :: ys) = (u :: ·) <$> forEachFrom g s ys := by
    intro s ys
    simp only [forEachFrom, hx, Outcome.ok_bind]
    cases forEachFrom g s ys <;> rfl
  induction xs generalizing s i with
  | nil =>
    cases i with
    | zero => exact hfront s []
    | succ i => rfl
  | cons y xs ih =>
    cases i with
    | zero => exact hfront s _
    | succ i =>
      rw [List.insertIdx_succ_cons, forEachFrom, forEachFrom]
      cases g s y with
      | ok r =>
        simp only [Outcome.ok_bind, ih]
        cases forEachFrom g r.1 xs <;> rfl
      | err e => rfl
      | panic => rfl

/-- **Any number of them can.** -/
theorem forEachFrom_insertEach {u : ι → α} (h : ∀ p ∈ ins, ∀ s, g s p.2 = .ok (s, u p.2)) :
    forEachFrom g s (insertEach xs ins) =
      (insertEach · (ins.map (Prod.map id u))) <$> forEachFrom g s xs := by
  induction ins generalizing xs with
  | nil =>
    rw [insertEach_nil]
    cases forEachFrom g s xs <;> rfl
  | cons p ins ih =>
    obtain ⟨hp, hins⟩ := List.forall_mem_cons.1 h
    rw [insertEach_cons, ih hins, forEachFrom_insertIdx hp]
    cases forEachFrom g s xs <;> rfl

/-- The same where there is no state. -/
theorem forEach_insertEach {f : ι → Outcome α} {u : ι → α} (h : ∀ p ∈ ins, f p.2 = .ok (u p.2)) :
    forEach f (insertEach xs ins) =
      (insertEach · (ins.map (Prod.map id u))) <$> forEach f xs := by
  rw [forEach_eq_forEachFrom, forEach_eq_forEachFrom]
  exact forEachFrom_insertEach fun p hp _ => by rw [h p hp, Outcome.map_ok]

end State

/-! ## Rearranged lists -/

/-- A search with at most one answer finds it in any order. -/
theorem findSome?_congr_mem {ys : List ι} {f : ι → Option α} (hmem : ∀ x, x ∈ xs ↔ x ∈ ys)
    (honce : ∀ x ∈ xs, ∀ y ∈ xs, ∀ a b, f x = some a → f y = some b → a = b) :
    xs.findSome? f = ys.findSome? f := by
  rcases hys : ys.findSome? f with _ | b
  · rw [List.findSome?_eq_none_iff] at hys ⊢
    exact fun x hx => hys x ((hmem x).1 hx)
  · obtain ⟨y, hy, hfy⟩ := List.exists_of_findSome?_eq_some hys
    have hyx := (hmem y).2 hy
    -- the other order has an answer too, since it has the same elements
    rcases hxs : xs.findSome? f with _ | a
    · rw [List.findSome?_eq_none_iff] at hxs
      rw [hxs y hyx] at hfy
      cases hfy
    · obtain ⟨x, hx, hfx⟩ := List.exists_of_findSome?_eq_some hxs
      rw [honce x hx y hyx a b hfx hfy]

/-- And the last answer is then the first. -/
theorem lastSome?_congr_mem {ys : List ι} {f : ι → Option α} (hmem : ∀ x, x ∈ xs ↔ x ∈ ys)
    (honce : ∀ x ∈ xs, ∀ y ∈ xs, ∀ a b, f x = some a → f y = some b → a = b) :
    lastSome? f xs = lastSome? f ys :=
  findSome?_congr_mem (by simpa using hmem) (by simpa using honce)

/-- A loop over a family of elements collects a family of values. -/
theorem forEach_ofFn_eq_ok_iff {n : ℕ} {f : ι → Outcome α} {l : Fin n → ι} {as : List α} :
    forEach f (List.ofFn l) = .ok as ↔
      ∃ v : Fin n → α, as = List.ofFn v ∧ ∀ i, f (l i) = .ok (v i) := by
  induction n generalizing as with
  | zero =>
    rw [List.ofFn_zero, forEach_nil]
    constructor
    · intro h
      exact ⟨Fin.elim0, by rw [List.ofFn_zero, ← Outcome.ok.inj h], fun i => i.elim0⟩
    · rintro ⟨v, rfl, -⟩
      rw [List.ofFn_zero]
  | succ n ih =>
    rw [List.ofFn_succ, forEach_cons, Outcome.bind_eq_ok]
    constructor
    · rintro ⟨a, ha, h⟩
      obtain ⟨as', has, h⟩ := (Outcome.bind_eq_ok _ _).1 h
      obtain ⟨v, rfl, hv⟩ := ih.1 has
      refine ⟨fun i => i.cases a v, ?_, fun i => ?_⟩
      · rw [← Outcome.ok.inj h, List.ofFn_succ]
        rfl
      · cases i using Fin.cases with
        | zero => exact ha
        | succ i => exact hv i
    · rintro ⟨v, rfl, hv⟩
      refine ⟨v 0, hv 0, ?_⟩
      rw [ih.2 ⟨fun i => v i.succ, rfl, fun i => hv i.succ⟩, Outcome.ok_bind, List.ofFn_succ]

/-- The same with what each value has to those in front of its element. -/
theorem eachWith_ofFn_iff {n : ℕ} {R : List ι → ι → α → Prop} {l : Fin n → ι} {as : List α} :
    EachWith R (List.ofFn l) as ↔
      ∃ v : Fin n → α, as = List.ofFn v ∧ ∀ i : Fin n, R ((List.ofFn l).take i) (l i) (v i) := by
  induction n generalizing R as with
  | zero =>
    rw [List.ofFn_zero]
    constructor
    · intro h
      have has : as = [] := List.length_eq_zero_iff.1 h.1
      exact ⟨Fin.elim0, by rw [has, List.ofFn_zero], fun i => i.elim0⟩
    · rintro ⟨v, rfl, -⟩
      exact ⟨by rw [List.ofFn_zero, List.length_nil, List.length_nil], by simp⟩
  | succ n ih =>
    rw [List.ofFn_succ]
    constructor
    · intro h
      have hlen : as.length = n + 1 := by rw [h.1, List.length_cons, List.length_ofFn]
      obtain ⟨a, rest, rfl⟩ := List.exists_cons_of_length_eq_add_one hlen
      obtain ⟨hr, hrest⟩ := eachWith_cons.1 h
      obtain ⟨v, rfl, hv⟩ := ih.1 hrest
      refine ⟨fun i => i.cases a v, ?_, fun i => ?_⟩
      · rw [List.ofFn_succ]
        rfl
      · cases i using Fin.cases with
        | zero => exact hr
        | succ i => exact hv i
    · rintro ⟨v, rfl, hv⟩
      rw [List.ofFn_succ]
      exact eachWith_cons.2 ⟨hv 0, ih.2 ⟨fun i => v i.succ, rfl, fun i => hv i.succ⟩⟩

end NetlinkRoute
