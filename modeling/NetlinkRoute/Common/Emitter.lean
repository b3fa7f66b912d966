import NetlinkRoute.Common.Bytes
/-!
# Emitters — code that fills a buffer in place

An `emit(&self, buffer: &mut [u8])` gets a slice and writes into it: the
slice keeps its length, some bytes are overwritten, the others stay what
they were, and a write outside the slice panics. `Emitter` is such a
piece of code, its length kept by a field, and the combinators below are
the statements the program's emitters are made of.

`Writes e n bs` says that `e`, on a slice of `n` bytes, leaves exactly
`bs` there whatever stood there before; `Keeps e i` that it never touches
byte `i`. An emitter that keeps a byte of its slice writes no fixed
string (`not_uniform_of_keeps`).
-/

namespace NetlinkRoute

/-- A piece of code that fills a slice in place. -/
structure Emitter where
  run : Bytes → Outcome Bytes
  length_run : ∀ {b b' : Bytes}, run b = .ok b' → b'.length = b.length

namespace Emitter

variable {e e₁ e₂ : Emitter} {b b' bs : Bytes} {lo hi off n i : ℕ}

/-- Write nothing. -/
def skip : Emitter := ⟨.ok, by rintro b b' ⟨⟩; rfl⟩

/-- One statement, then another. -/
def andThen (e₁ e₂ : Emitter) : Emitter where
  run b := e₁.run b >>= e₂.run
  length_run {b b'} h := by
    obtain ⟨c, hc, h'⟩ := (Outcome.bind_eq_ok _ _).1 h
    rw [e₂.length_run h', e₁.length_run hc]

/-- A block of statements. -/
def block : List Emitter → Emitter := List.foldr andThen skip

/-- `buffer[off..off + bs.len()]` is overwritten: a setter of a struct
buffer, an indexed assignment, a `write_u16` and so on. -/
def put (off : ℕ) (bs : Bytes) : Emitter where
  run b := if off + bs.length ≤ b.length then
    .ok (b.take off ++ bs ++ b.drop (off + bs.length)) else .panic
  length_run {b b'} h := by
    split at h
    · cases h
      simp only [List.length_append, List.length_take, List.length_drop]
      omega
    · cases h

/-- `buffer.copy_from_slice(bs)`: both must have the same length. -/
def copy (bs : Bytes) : Emitter where
  run b := if b.length = bs.length then .ok bs else .panic
  length_run {b b'} h := by
    split at h
    · cases h
      omega
    · cases h

/-- A value is computed first, and a panic in that is a panic of the whole. -/
def after {α : Type} (o : Outcome α) (e : α → Emitter) : Emitter where
  run b := o >>= fun a => (e a).run b
  length_run {b b'} h := by
    obtain ⟨a, -, h'⟩ := (Outcome.bind_eq_ok _ _).1 h
    exact (e a).length_run h'

/-- `e` on `buffer[lo..hi]`. -/
def onSlice (lo hi : ℕ) (e : Emitter) : Emitter where
  run b := do
    let mid ← slice b lo hi
    let mid ← e.run mid
    .ok (b.take lo ++ mid ++ b.drop hi)
  length_run {b b'} h := by
    simp only [Outcome.bind_eq_ok] at h
    obtain ⟨m, hm, m', hm', h⟩ := h
    have hlen := e.length_run hm'
    unfold slice at hm
    split at hm
    · cases hm
      cases h
      simp only [List.length_append, List.length_take, List.length_drop] at hlen ⊢
      omega
    · cases hm

/-- `e` on `buffer[lo..]`. -/
def onTail (lo : ℕ) (e : Emitter) : Emitter where
  run b := do
    let tail ← sliceFrom b lo
    let tail ← e.run tail
    .ok (b.take lo ++ tail)
  length_run {b b'} h := by
    simp only [Outcome.bind_eq_ok] at h
    obtain ⟨m, hm, m', hm', h⟩ := h
    have hlen := e.length_run hm'
    unfold sliceFrom at hm
    split at hm
    · cases hm
      cases h
      simp only [List.length_append, List.length_take, List.length_drop] at hlen ⊢
      omega
    · cases hm

/-- `for x in xs { x.emit(&mut buffer[at..at + len]); at += len; }`: each
item, a length and its code, in its own part of the buffer. -/
def inTurn : List (ℕ × Emitter) → Emitter
  | [] => skip
  | item :: items => (onSlice 0 item.1 item.2).andThen (onTail item.1 (inTurn items))

/-- The setters of a struct buffer, one after another: each pair is a
field's place and its bytes. -/
def fields (fs : List (ℕ × Bytes)) : Emitter := block (fs.map fun f => put f.1 f.2)

@[simp] theorem skip_run : skip.run b = .ok b := rfl

@[simp] theorem andThen_run : (e₁.andThen e₂).run b = e₁.run b >>= e₂.run := rfl

@[simp] theorem block_nil : block [] = skip := rfl

@[simp] theorem block_cons {es : List Emitter} : block (e :: es) = e.andThen (block es) := rfl

/-- Bytes are put at their place when there is room. -/
theorem put_run (h : off + bs.length ≤ b.length) :
    (put off bs).run b = .ok (b.take off ++ bs ++ b.drop (off + bs.length)) := if_pos h

/-- A copy takes a slice of its own length. -/
theorem copy_run (h : b.length = bs.length) : (copy bs).run b = .ok bs := if_pos h

/-- On a slice of any other length it panics. -/
theorem copy_run_ne (h : b.length ≠ bs.length) : (copy bs).run b = .panic := if_neg h

/-- What is written behind a place leaves what is in front of it. -/
theorem onTail_run (h : lo ≤ b.length) :
    (onTail lo e).run b = (b.take lo ++ ·) <$> e.run (b.drop lo) := by
  simp only [onTail, sliceFrom_ok h, Outcome.ok_bind]
  cases e.run (b.drop lo) <;> rfl

/-- What is written into a range leaves both sides of it. -/
theorem onSlice_run (h : lo ≤ hi) (h' : hi ≤ b.length) :
    (onSlice lo hi e).run b =
      (b.take lo ++ · ++ b.drop hi) <$> e.run ((b.drop lo).take (hi - lo)) := by
  simp only [onSlice, slice_ok h h', Outcome.ok_bind]
  cases e.run ((b.drop lo).take (hi - lo)) <;> rfl

/-- A slice that is written into is there. -/
theorem le_of_onSlice_run (h : (onSlice lo hi e).run b = .ok b') : hi ≤ b.length := by
  by_contra hlt
  simp [onSlice, slice, hlt] at h

/-- In a block that ends, every statement has ended. -/
theorem exists_run_of_block_run {es : List Emitter} (h : (block es).run b = .ok b') (he : e ∈ es) :
    ∃ c c', c.length = b.length ∧ e.run c = .ok c' := by
  induction es generalizing b with
  | nil => cases he
  | cons e₁ es ih =>
    rw [block_cons, andThen_run, Outcome.bind_eq_ok] at h
    obtain ⟨c, hc, hrest⟩ := h
    rcases List.mem_cons.1 he with rfl | he
    · exact ⟨b, c, rfl, hc⟩
    · obtain ⟨d, d', hlen, hd⟩ := ih hrest he
      exact ⟨d, d', hlen.trans (e₁.length_run hc), hd⟩

/-! ## Emitters that write everything -/

/-- On a slice of `n` bytes `e` leaves `bs`, whatever was there. -/
structure Writes (e : Emitter) (n : ℕ) (bs : Bytes) : Prop where
  length_eq : bs.length = n
  run_eq : ∀ b : Bytes, b.length = n → e.run b = .ok bs

/-- What `e` leaves in a slice of `n` bytes does not depend on what was
there. -/
def Uniform (e : Emitter) (n : ℕ) : Prop := ∃ bs, Writes e n bs

/-- `e` overwrites the first bytes of any slice that is long enough, and
leaves the rest. -/
def Covers (e : Emitter) (bs : Bytes) : Prop :=
  ∀ b : Bytes, bs.length ≤ b.length → e.run b = .ok (bs ++ b.drop bs.length)

/-- Known bytes are the same bytes. -/
theorem Writes.uniform (h : Writes e n bs) : Uniform e n := ⟨bs, h⟩

/-- That is, any two slices come back the same. -/
theorem uniform_iff_agree : Uniform e n ↔ ∀ b b' : Bytes, b.length = n → b'.length = n →
    ∃ out, e.run b = .ok out ∧ e.run b' = .ok out := by
  constructor
  · rintro ⟨bs, hbs⟩ b b' hb hb'
    exact ⟨bs, hbs.run_eq b hb, hbs.run_eq b' hb'⟩
  · intro h
    have hzeros : (List.replicate n (0 : UInt8)).length = n := List.length_replicate
    obtain ⟨bs, hbs, -⟩ := h _ _ hzeros hzeros
    refine ⟨bs, (e.length_run hbs).trans hzeros, fun b hb => ?_⟩
    obtain ⟨out, hout, hb'⟩ := h _ b hzeros hb
    rw [hb', ← hout, hbs]

/-- What covers a slice writes it when nothing is left over. -/
theorem Covers.writes (h : Covers e bs) : Writes e bs.length bs where
  length_eq := rfl
  run_eq b hb := by
    rw [h b (by omega), List.drop_eq_nil_of_le (by omega), List.append_nil]

/-- Bytes put first cover what they are put on. -/
theorem covers_put (bs : Bytes) : Covers (put 0 bs) bs := by
  intro b hb
  rw [put_run (by omega)]
  simp

/-- And write a slice of their length. -/
theorem writes_put (h : bs.length = n) : Writes (put 0 bs) n bs :=
  h ▸ (covers_put bs).writes

theorem writes_copy (h : bs.length = n) : Writes (copy bs) n bs where
  length_eq := h
  run_eq b hb := copy_run (by omega)

theorem writes_skip : Writes skip 0 [] where
  length_eq := rfl
  run_eq b hb := by rw [List.eq_nil_of_length_eq_zero hb]; rfl

/-- A first part that covers the slice's beginning, and a second that
writes the rest. -/
theorem Covers.andThen_onTail {e₁ : Emitter} (h₁ : Covers e₁ bs) {cs : Bytes} {m : ℕ}
    (h₂ : Writes e₂ m cs) (hn : n = bs.length + m) :
    Writes (e₁.andThen (onTail bs.length e₂)) n (bs ++ cs) where
  length_eq := by rw [List.length_append, h₂.length_eq, hn]
  run_eq b hb := by
    rw [andThen_run, h₁ b (by omega), Outcome.ok_bind, onTail_run (by simp)]
    rw [List.drop_left, List.take_left, h₂.run_eq _ (by rw [List.length_drop]; omega)]
    rfl

/-- And the whole is uniform exactly when the second part is. -/
theorem Covers.uniform_andThen_onTail {e₁ e : Emitter} (h₁ : Covers e₁ bs) {m : ℕ}
    (hn : n = bs.length + m) :
    Uniform (e₁.andThen (onTail bs.length e)) n ↔ Uniform e m := by
  constructor
  · rintro ⟨out, hout⟩
    refine ⟨out.drop bs.length, ?_, fun b hb => ?_⟩
    · rw [List.length_drop, hout.length_eq]
      omega
    · have h := hout.run_eq (bs ++ b) (by rw [List.length_append]; omega)
      rw [andThen_run, h₁ _ (by simp), Outcome.ok_bind, List.drop_left, onTail_run (by simp),
        List.drop_left, List.take_left] at h
      obtain ⟨c, hc, rfl⟩ := (Outcome.map_eq_ok _).1 h
      rw [hc, List.drop_left]
  · rintro ⟨cs, hcs⟩
    exact (h₁.andThen_onTail hcs hn).uniform

/-! ## On a zeroed slice -/

/-- On a zeroed slice of `n` bytes `e` leaves `bs`. -/
def Fills (e : Emitter) (n : ℕ) (bs : Bytes) : Prop := e.run (zeros n) = .ok bs

/-- A slice stays as long as it is. -/
theorem Fills.length_eq (h : Fills e n bs) : bs.length = n := by
  rw [e.length_run h, length_zeros]

/-- What is written to any slice is written to a zeroed one. -/
theorem Writes.fills (h : Writes e n bs) : Fills e n bs := h.run_eq _ (length_zeros n)

theorem fills_skip : Fills skip n (zeros n) := rfl

@[simp] theorem take_zeros {k : ℕ} : (zeros n).take k = zeros (min k n) := List.take_replicate

@[simp] theorem drop_zeros {k : ℕ} : (zeros n).drop k = zeros (n - k) := List.drop_replicate

/-- A first part that is covered, and what fills the rest. -/
theorem Covers.fills_andThen_onTail {e₁ : Emitter} (h₁ : Covers e₁ bs) {cs : Bytes} {m : ℕ}
    (h₂ : Fills e₂ m cs) (hn : n = bs.length + m) :
    Fills (e₁.andThen (onTail bs.length e₂)) n (bs ++ cs) := by
  rw [Fills, andThen_run, h₁ _ (by rw [length_zeros]; omega), Outcome.ok_bind,
    onTail_run (by simp), List.drop_left, List.take_left, drop_zeros,
    show n - bs.length = m by omega, h₂]
  rfl

/-! ## Items written in turn -/

section InTurn

variable {items : List (ℕ × Emitter)} {item : ℕ × Emitter}

/-- The first item is written to its own part, and the others to the rest. -/
theorem run_inTurn_cons (h : item.1 ≤ b.length) :
    (inTurn (item :: items)).run b = (do
      let head ← item.2.run (b.take item.1)
      let tail ← (inTurn items).run (b.drop item.1)
      .ok (head ++ tail)) := by
  rw [inTurn, andThen_run, onSlice_run (by omega) h]
  simp only [List.take_zero, List.nil_append, List.drop_zero, Nat.sub_zero]
  cases hh : item.2.run (b.take item.1) with
  | err _ => rfl
  | panic => rfl
  | ok v =>
    have hv : v.length = item.1 := by
      rw [item.2.length_run hh, List.length_take]
      omega
    rw [Outcome.map_ok, Outcome.ok_bind, onTail_run (by rw [List.length_append]; omega),
      List.drop_left' hv, List.take_left' hv]
    cases (inTurn items).run (b.drop item.1) <;> rfl

/-- The space a list of items takes. -/
def itemsLen (items : List (ℕ × Emitter)) : ℕ := (items.map Prod.fst).sum

@[simp] theorem itemsLen_nil : itemsLen [] = 0 := rfl

@[simp] theorem itemsLen_cons : itemsLen (item :: items) = item.1 + itemsLen items := by
  simp [itemsLen]

/-- Items that each write their part write the whole. -/
theorem writes_inTurn {out : List Bytes}
    (h : List.Forall₂ (fun item bs => Writes item.2 item.1 bs) items out) :
    Writes (inTurn items) (itemsLen items) out.flatten := by
  induction h with
  | nil => exact writes_skip
  | @cons item bs items out hw _ ih =>
    refine ⟨by simp [hw.length_eq, ih.length_eq], fun b hb => ?_⟩
    rw [itemsLen_cons] at hb
    rw [run_inTurn_cons (by omega), hw.run_eq _ (by rw [List.length_take]; omega), Outcome.ok_bind,
      ih.run_eq _ (by rw [List.length_drop]; omega)]
    rfl

/-- The same for the items of a list of values. -/
theorem writes_inTurn_map {α : Type} {l : List α} {len : α → ℕ} {e : α → Emitter} {out : α → Bytes}
    (h : ∀ a ∈ l, Writes (e a) (len a) (out a)) :
    Writes (inTurn (l.map fun a => (len a, e a))) ((l.map len).sum) (l.flatMap out) := by
  have hf : List.Forall₂ (fun item bs => Writes item.2 item.1 bs) (l.map fun a => (len a, e a))
      (l.map out) := by
    rw [List.forall₂_map_left_iff, List.forall₂_map_right_iff, List.forall₂_same]
    exact h
  have hw := writes_inTurn hf
  rw [itemsLen, List.map_map] at hw
  rwa [List.flatMap_def]

/-- And on a zeroed slice. -/
theorem fills_inTurn_map {α : Type} {l : List α} {len : α → ℕ} {e : α → Emitter} {out : α → Bytes}
    (h : ∀ a ∈ l, Fills (e a) (len a) (out a)) :
    Fills (inTurn (l.map fun a => (len a, e a))) ((l.map len).sum) (l.flatMap out) := by
  induction l with
  | nil => exact fills_skip
  | cons a l ih =>
    have ih := ih fun c hc => h c (by simp [hc])
    rw [List.map_cons, List.map_cons, List.sum_cons, Fills,
      run_inTurn_cons (by rw [length_zeros]; exact Nat.le_add_right _ _), take_zeros, drop_zeros,
      Nat.min_eq_left (Nat.le_add_right _ _), h a (by simp), Nat.add_sub_cancel_left, ih]
    rfl

/-- **Items in turn are uniform exactly when each is.** -/
theorem uniform_inTurn_iff :
    Uniform (inTurn items) (itemsLen items) ↔ ∀ item ∈ items, Uniform item.2 item.1 := by
  constructor
  · rintro ⟨out, hout⟩
    induction items generalizing out with
    | nil => simp
    | cons item items ih =>
      have hlen := hout.length_eq
      rw [itemsLen_cons] at hlen
      -- the head and the tail of the buffer are filled independently
      have hsplit : ∀ b c : Bytes, b.length = item.1 → c.length = itemsLen items →
          item.2.run b = .ok (out.take item.1) ∧
            (inTurn items).run c = .ok (out.drop item.1) := by
        intro b c hb hc
        have h := hout.run_eq (b ++ c) (by rw [itemsLen_cons, List.length_append]; omega)
        rw [run_inTurn_cons (by rw [List.length_append]; omega), List.take_left' hb,
          List.drop_left' hb] at h
        simp only [Outcome.bind_eq_ok, Outcome.ok.injEq] at h
        obtain ⟨h1, hh1, h2, hh2, rfl⟩ := h
        have hl : h1.length = item.1 := by rw [item.2.length_run hh1, hb]
        rw [List.take_left' hl, List.drop_left' hl]
        exact ⟨hh1, hh2⟩
      have hhead : Uniform item.2 item.1 :=
        ⟨out.take item.1, by rw [List.length_take]; omega,
          fun b hb => (hsplit b (zeros _) hb (length_zeros _)).1⟩
      have htail := ih (out.drop item.1) ⟨by rw [List.length_drop]; omega,
        fun c hc => (hsplit (zeros _) c (length_zeros _) hc).2⟩
      intro m hm
      rcases List.mem_cons.1 hm with rfl | hm
      · exact hhead
      · exact htail m hm
  · intro h
    choose! v hv using h
    simpa [itemsLen] using (writes_inTurn_map hv).uniform

end InTurn

/-! ## Emitters that leave a byte alone -/

/-- `e` never touches byte `i`. -/
def Keeps (e : Emitter) (i : ℕ) : Prop :=
  ∀ b b' : Bytes, e.run b = .ok b' → b'[i]? = b[i]?

theorem keeps_skip : Keeps skip i := by
  rintro b b' ⟨⟩
  rfl

/-- A byte that two statements leave alone, both together do. -/
theorem Keeps.andThen (h₁ : Keeps e₁ i) (h₂ : Keeps e₂ i) : Keeps (e₁.andThen e₂) i := by
  intro b b' h
  obtain ⟨c, hc, h⟩ := (Outcome.bind_eq_ok _ _).1 h
  rw [h₂ _ _ h, h₁ _ _ hc]

/-- A byte outside of what is put stays. -/
theorem keeps_put (h : i < off ∨ off + bs.length ≤ i) : Keeps (put off bs) i := by
  intro b b' hb
  simp only [put] at hb
  split at hb
  · cases hb
    rcases h with h | h
    · rw [List.append_assoc, List.getElem?_append_left (by rw [List.length_take]; omega)]
      rw [List.getElem?_take_of_lt h]
    · rw [List.getElem?_append_right (by rw [List.length_append, List.length_take]; omega),
        List.getElem?_drop]
      congr 1
      simp only [List.length_append, List.length_take]
      omega
  · cases hb

/-- So does one in front of the tail. -/
theorem keeps_onTail (h : i < lo) : Keeps (onTail lo e) i := by
  intro b b' hb
  simp only [onTail, Outcome.bind_eq_ok] at hb
  obtain ⟨t, ht, t', -, hb⟩ := hb
  cases hb
  unfold sliceFrom at ht
  split at ht
  · rw [List.getElem?_append_left (by rw [List.length_take]; omega), List.getElem?_take_of_lt h]
  · cases ht

/-- So does one inside a slice whose emitter keeps it. -/
theorem Keeps.onSlice_zero (h : Keeps e i) (hin : i < n) : Keeps (onSlice 0 n e) i := by
  intro b b' hb
  have hlen := le_of_onSlice_run hb
  rw [onSlice_run (Nat.zero_le n) hlen] at hb
  obtain ⟨c, hc, rfl⟩ := (Outcome.map_eq_ok _).1 hb
  have hc' := e.length_run hc
  simp only [List.take_zero, List.nil_append, List.drop_zero, Nat.sub_zero, List.length_take]
    at hc hc' ⊢
  rw [List.getElem?_append_left (by omega), h _ _ hc, List.getElem?_take_of_lt hin]

/-- The setters keep what lies in no field. -/
theorem keeps_fields {fs : List (ℕ × Bytes)} (h : ∀ f ∈ fs, i < f.1 ∨ f.1 + f.2.length ≤ i) :
    Keeps (fields fs) i := by
  induction fs with
  | nil => exact keeps_skip
  | cons f fs ih =>
    exact (keeps_put (h f (by simp))).andThen (ih fun g hg => h g (by simp [hg]))

/-- **An emitter that keeps a byte of its slice is not uniform.** Two
slices that differ there come back different. -/
theorem not_uniform_of_keeps (h : Keeps e i) (hi : i < n) : ¬ Uniform e n := by
  rintro ⟨bs, hbs⟩
  have h0 := h _ _ (hbs.run_eq (List.replicate n 0) List.length_replicate)
  have h1 := h _ _ (hbs.run_eq (List.replicate n 1) List.length_replicate)
  rw [h0] at h1
  simp [hi] at h1

/-! ## When a single statement is uniform -/

/-- A copy writes a slice of its own length and no other. -/
@[simp] theorem uniform_copy_iff : Uniform (copy bs) n ↔ bs.length = n := by
  constructor
  · rintro ⟨out, hout⟩
    by_contra hne
    have h := hout.run_eq (zeros n) (length_zeros n)
    rw [copy_run_ne (by rw [length_zeros]; omega)] at h
    cases h
  · exact fun h => (writes_copy h).uniform

/-- Bytes put first write a slice of their number and no other. -/
@[simp] theorem uniform_put_iff : Uniform (put 0 bs) n ↔ bs.length = n := by
  constructor
  · intro hu
    rcases Nat.lt_trichotomy bs.length n with h | h | h
    · exact absurd hu (not_uniform_of_keeps (keeps_put (.inr (by omega))) h)
    · exact h
    · obtain ⟨out, hout⟩ := hu
      have hrun := hout.run_eq (zeros n) (length_zeros n)
      simp only [put, length_zeros, Nat.zero_add] at hrun
      rw [if_neg (by omega)] at hrun
      cases hrun
  · exact fun h => (writes_put h).uniform

/-- Nothing is only written to nothing. -/
@[simp] theorem uniform_skip_iff : Uniform skip n ↔ n = 0 := by
  constructor
  · intro hu
    by_contra h
    exact not_uniform_of_keeps keeps_skip (Nat.pos_of_ne_zero h) hu
  · rintro rfl
    exact writes_skip.uniform

/-! ## Fields that tile the buffer -/

/-- Each field begins where the one before it ends. -/
def Tiles : ℕ → List (ℕ × Bytes) → Prop
  | _, [] => True
  | at', f :: fs => f.1 = at' ∧ Tiles (at' + f.2.length) fs

/-- Setters in two groups. -/
theorem fields_append_run {fs gs : List (ℕ × Bytes)} :
    (fields (fs ++ gs)).run b = (fields fs).run b >>= (fields gs).run := by
  induction fs generalizing b with
  | nil => rfl
  | cons f fs ih =>
    show (put f.1 f.2).run b >>= (fields (fs ++ gs)).run =
      ((put f.1 f.2).run b >>= (fields fs).run) >>= (fields gs).run
    cases (put f.1 f.2).run b with
    | ok c => exact ih
    | err e => rfl
    | panic => rfl

/-- Fields that follow one another are put one after another. -/
theorem run_fields_of_tiles {fs : List (ℕ × Bytes)} {pre : Bytes} (ht : Tiles pre.length fs)
    {rest : Bytes} (hlen : (fs.flatMap Prod.snd).length ≤ rest.length) :
    (fields fs).run (pre ++ rest) =
      .ok (pre ++ fs.flatMap Prod.snd ++ rest.drop (fs.flatMap Prod.snd).length) := by
  induction fs generalizing pre rest with
  | nil => simp [fields]
  | cons f fs ih =>
    obtain ⟨hf, ht⟩ := ht
    simp only [List.flatMap_cons, List.length_append] at hlen
    -- one setter writes at the place the fields before it have come to
    have hput : (put f.1 f.2).run (pre ++ rest) = .ok ((pre ++ f.2) ++ rest.drop f.2.length) := by
      rw [put_run (by rw [hf, List.length_append]; omega), hf, List.take_left, List.drop_append,
        List.drop_eq_nil_of_le (by omega)]
      simp
    have hrest : (fs.flatMap Prod.snd).length ≤ (rest.drop f.2.length).length := by
      rw [List.length_drop]
      omega
    rw [← List.length_append] at ht
    show (put f.1 f.2).run (pre ++ rest) >>= (fields fs).run = _
    rw [hput, Outcome.ok_bind, ih ht hrest]
    simp [List.drop_drop]

/-- **Setters whose fields tile the buffer's beginning overwrite it**,
with the fields' bytes in order. -/
theorem covers_fields {fs : List (ℕ × Bytes)} (ht : Tiles 0 fs) :
    Covers (fields fs) (fs.flatMap Prod.snd) := by
  intro b hb
  have h := @run_fields_of_tiles fs [] ht b hb
  rwa [List.nil_append] at h

end Emitter

end NetlinkRoute
