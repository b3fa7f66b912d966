import NetlinkRoute.Common.Carried
/-!
# Emitters that end

An emitter panics when a write leaves its slice or a value that it needs
is not there. `EndsIf e n P` says when that is: on a slice of `n` bytes
`e` ends if `P` and panics if not, whatever stands in the slice. The rules
below follow the statements that emitters are made of, so that the
condition of a whole is read off its parts; a list of attributes ends when
each payload does (`endsIf_emitNlas`), and a message when its attributes
do (`MessageFormat.endsIf_emit`).
-/

namespace NetlinkRoute

namespace Emitter

variable {e e₁ e₂ : Emitter} {b bs : Bytes} {lo hi off n m : ℕ} {P Q : Prop}

/-- On a slice of `n` bytes `e` ends if `P`, and panics if not, whatever
stands in the slice. -/
structure EndsIf (e : Emitter) (n : ℕ) (P : Prop) : Prop where
  ends : P → ∀ b : Bytes, b.length = n → ∃ out, e.run b = .ok out
  panics : ¬ P → ∀ b : Bytes, b.length = n → e.run b = .panic

/-- On a slice of `n` bytes `e` always ends. -/
def Ends (e : Emitter) (n : ℕ) : Prop := ∀ b : Bytes, b.length = n → ∃ out, e.run b = .ok out

theorem Ends.endsIf (h : Ends e n) (hP : P) : EndsIf e n P :=
  ⟨fun _ => h, fun hn => absurd hP hn⟩

theorem EndsIf.congr (h : EndsIf e n P) (hPQ : P ↔ Q) : EndsIf e n Q :=
  ⟨fun hQ => h.ends (hPQ.2 hQ), fun hQ => h.panics (mt hPQ.1 hQ)⟩

/-- On a buffer of its length the emitter returns exactly under its
condition. -/
theorem EndsIf.ok_iff (h : EndsIf e n P) (hb : b.length = n) :
    (∃ out, e.run b = .ok out) ↔ P := by
  refine ⟨fun hout => ?_, fun hP => h.ends hP b hb⟩
  by_contra hP
  obtain ⟨out, hout⟩ := hout
  rw [h.panics hP b hb] at hout
  cases hout

/-- It panics exactly without it. -/
theorem EndsIf.panic_iff (h : EndsIf e n P) (hb : b.length = n) : e.run b = .panic ↔ ¬ P := by
  refine ⟨fun hp hP => ?_, fun hP => h.panics hP b hb⟩
  obtain ⟨out, hout⟩ := h.ends hP b hb
  rw [hp] at hout
  cases hout

/-- It ends on every buffer exactly where the condition holds. -/
theorem EndsIf.ends_iff (h : EndsIf e n P) : Ends e n ↔ P := by
  refine ⟨fun hends => ?_, h.ends⟩
  exact (h.ok_iff (length_zeros n)).1 (hends _ (length_zeros n))

/-- An emitter that acts alike on all buffers ends on each. -/
theorem Uniform.ends (h : Uniform e n) : Ends e n := by
  intro b hb
  obtain ⟨bs, hbs⟩ := h
  exact ⟨bs, hbs.run_eq b hb⟩

/-- So does one that covers its buffer. -/
theorem Covers.ends (h : Covers e bs) (hle : bs.length ≤ n) : Ends e n :=
  fun b hb => ⟨_, h b (by omega)⟩

/-! ## Statements -/

@[simp] theorem ends_skip : Ends skip n := fun b _ => ⟨b, rfl⟩

/-- A write ends exactly where it lies inside the buffer. -/
theorem endsIf_put : EndsIf (put off bs) n (off + bs.length ≤ n) where
  ends h b hb := ⟨_, put_run (by omega)⟩
  panics h b hb := if_neg (by omega)

/-- `copy_from_slice` ends exactly on a buffer of the same length. -/
theorem endsIf_copy : EndsIf (copy bs) n (bs.length = n) where
  ends h b hb := ⟨_, copy_run (hb.trans h.symm)⟩
  panics h b hb := copy_run_ne (by omega)

@[simp] theorem ends_put_iff : Ends (put off bs) n ↔ off + bs.length ≤ n := endsIf_put.ends_iff

@[simp] theorem ends_copy_iff : Ends (copy bs) n ↔ bs.length = n := endsIf_copy.ends_iff

/-- Of two statements, both must end. -/
theorem EndsIf.andThen (h₁ : EndsIf e₁ n P) (h₂ : EndsIf e₂ n Q) :
    EndsIf (e₁.andThen e₂) n (P ∧ Q) where
  ends h b hb := by
    obtain ⟨c, hc⟩ := h₁.ends h.1 b hb
    obtain ⟨out, hout⟩ := h₂.ends h.2 c ((e₁.length_run hc).trans hb)
    exact ⟨out, by rw [andThen_run, hc, Outcome.ok_bind, hout]⟩
  panics h b hb := by
    by_cases hP : P
    · obtain ⟨c, hc⟩ := h₁.ends hP b hb
      have hQ : ¬ Q := fun hQ => h ⟨hP, hQ⟩
      rw [andThen_run, hc, Outcome.ok_bind, h₂.panics hQ c ((e₁.length_run hc).trans hb)]
    · rw [andThen_run, h₁.panics hP b hb]
      rfl

/-- After a step that ends, the second one decides. -/
theorem Ends.andThen_endsIf (h₁ : Ends e₁ n) (h₂ : EndsIf e₂ n P) :
    EndsIf (e₁.andThen e₂) n P :=
  ((h₁.endsIf trivial).andThen h₂).congr (iff_of_eq (true_and P))

/-- On a slice the condition gains the upper bound of the slice. -/
theorem EndsIf.onSlice (h : EndsIf e (hi - lo) P) (hle : lo ≤ hi) :
    EndsIf (onSlice lo hi e) n (hi ≤ n ∧ P) where
  ends hP b hb := by
    have hlen : ((b.drop lo).take (hi - lo)).length = hi - lo := by
      rw [List.length_take, List.length_drop]
      omega
    obtain ⟨out, hout⟩ := h.ends hP.2 _ hlen
    exact ⟨_, by rw [onSlice_run hle (hP.1.trans_eq hb.symm), hout]; rfl⟩
  panics hP b hb := by
    by_cases hn : hi ≤ n
    · have hlen : ((b.drop lo).take (hi - lo)).length = hi - lo := by
        rw [List.length_take, List.length_drop]
        omega
      rw [onSlice_run hle (hn.trans_eq hb.symm), h.panics (fun h => hP ⟨hn, h⟩) _ hlen]
      rfl
    · have hslice : slice b lo hi = .panic := if_neg (by omega)
      simp only [Emitter.onSlice, hslice, Outcome.panic_bind]

/-- On a tail the condition stays. -/
theorem EndsIf.onTail (h : EndsIf e (n - lo) P) (hle : lo ≤ n) : EndsIf (onTail lo e) n P where
  ends hP b hb := by
    obtain ⟨out, hout⟩ := h.ends hP (b.drop lo) (by rw [List.length_drop, hb])
    exact ⟨_, by rw [onTail_run (hle.trans_eq hb.symm), hout]; rfl⟩
  panics hP b hb := by
    rw [onTail_run (hle.trans_eq hb.symm), h.panics hP _ (by rw [List.length_drop, hb])]
    rfl

/-- A header and a tail that both end make a message that ends. -/
theorem Ends.andThen_onTail (h₁ : Ends e₁ n) (h₂ : Ends e₂ m) (hn : n = lo + m) :
    Ends (e₁.andThen (Emitter.onTail lo e₂)) n := by
  have hrest : n - lo = m := by omega
  have htail : EndsIf (Emitter.onTail lo e₂) n True := by
    refine EndsIf.onTail ?_ (by omega)
    rw [hrest]
    exact h₂.endsIf trivial
  exact (h₁.andThen_endsIf htail).ends trivial

/-- What comes after a value ends when the value is there. -/
theorem endsIf_after {α : Type} {o : Outcome α} {f : α → Emitter}
    (ho : (∃ a, o = .ok a) ∨ o = .panic) (h : ∀ a, o = .ok a → Ends (f a) n) :
    EndsIf (after o f) n (∃ a, o = .ok a) where
  ends ha b hb := by
    obtain ⟨a, rfl⟩ := ha
    exact h a rfl b hb
  panics hn b _ := by
    have hp : o = .panic := ho.resolve_left hn
    rw [hp]
    rfl

/-- Of a block, every statement must end. -/
theorem endsIf_block_map {α : Type} {xs : List α} {f : α → Emitter} {P : α → Prop}
    (h : ∀ x ∈ xs, EndsIf (f x) n (P x)) : EndsIf (block (xs.map f)) n (∀ x ∈ xs, P x) := by
  induction xs with
  | nil => exact ends_skip.endsIf (by simp)
  | cons x xs ih =>
    obtain ⟨hx, hxs⟩ := List.forall_mem_cons.1 h
    exact (hx.andThen (ih hxs)).congr List.forall_mem_cons.symm

/-- Several writes end exactly where each of them lies inside the buffer. -/
theorem endsIf_fields {fs : List (ℕ × Bytes)} :
    EndsIf (fields fs) n (∀ f ∈ fs, f.1 + f.2.length ≤ n) :=
  endsIf_block_map fun _ _ => endsIf_put

@[simp] theorem ends_fields_iff {fs : List (ℕ × Bytes)} :
    Ends (fields fs) n ↔ ∀ f ∈ fs, f.1 + f.2.length ≤ n := endsIf_fields.ends_iff

/-- Of items that are written in turn, each must end in its own part. -/
theorem endsIf_inTurn {items : List (ℕ × Emitter)} {P : ℕ × Emitter → Prop}
    (h : ∀ item ∈ items, EndsIf item.2 item.1 (P item)) :
    EndsIf (inTurn items) (itemsLen items) (∀ item ∈ items, P item) := by
  induction items with
  | nil => exact ends_skip.endsIf (by simp)
  | cons item items ih =>
    obtain ⟨hitem, hitems⟩ := List.forall_mem_cons.1 h
    have hhead : EndsIf (Emitter.onSlice 0 item.1 item.2) (itemsLen (item :: items)) (P item) := by
      refine (EndsIf.onSlice (P := P item) hitem (Nat.zero_le _)).congr (and_iff_right ?_)
      rw [itemsLen_cons]
      exact Nat.le_add_right _ _
    have htail : EndsIf (Emitter.onTail item.1 (inTurn items)) (itemsLen (item :: items))
        (∀ item ∈ items, P item) := by
      rw [itemsLen_cons]
      refine EndsIf.onTail ?_ (Nat.le_add_right _ _)
      rw [Nat.add_sub_cancel_left]
      exact ih hitems
    exact (hhead.andThen htail).congr List.forall_mem_cons.symm

/-- Emitters that end, each on its own length, end one after the other. -/
theorem ends_inTurn_map {α : Type} {l : List α} {len : α → ℕ} {f : α → Emitter}
    (h : ∀ a ∈ l, Ends (f a) (len a)) :
    Ends (inTurn (l.map fun a => (len a, f a))) (l.map len).sum := by
  have hitems : ∀ item ∈ l.map fun a => (len a, f a), EndsIf item.2 item.1 True := by
    rintro item hitem
    obtain ⟨a, ha, rfl⟩ := List.mem_map.1 hitem
    exact (h a ha).endsIf trivial
  have hends := (endsIf_inTurn hitems).ends fun _ _ => trivial
  rwa [itemsLen, List.map_map] at hends

end Emitter

open PacketUtils Emitter

variable {n : ℕ}

@[simp] theorem Octets.length_val {k : ℕ} {a : Octets k} : a.val.length = k := a.property

@[simp] theorem ends_emitStringNul {s : String} :
    Ends (emitStringNul s) ((utf8 s).length + 1) := writes_emitStringNul.uniform.ends

@[simp] theorem StructCodec.ends_emit {σ : Type} {s : StructCodec σ} {x : σ} :
    Ends (s.emit x) s.len := StructCodec.uniform_emit.ends

@[simp] theorem DefaultNla.ends_emitValue {d : DefaultNla} : Ends d.emitValue d.valueLen :=
  DefaultNla.uniform_emitValue.ends

/-- Fields in ascending order lie below the limit. -/
theorem Ascending.add_le {pos lim : ℕ} {fs : List (ℕ × Bytes)} (h : Ascending pos lim fs) :
    ∀ f ∈ fs, f.1 + f.2.length ≤ lim := by
  induction fs generalizing pos with
  | nil => simp
  | cons f fs ih =>
    refine List.forall_mem_cons.2 ⟨?_, ih h.2⟩
    exact h.2.le

theorem HeaderCodec.ends_emit {η : Type} (c : HeaderCodec η) {h : η} (hle : c.len ≤ n) :
    Ends (c.emit h) n :=
  ends_fields_iff.2 fun f hf => ((c.ascending h).add_le f hf).trans hle

@[simp] theorem HeaderCodec.ends_emit_len {η : Type} {c : HeaderCodec η} {h : η} :
    Ends (c.emit h) c.len := c.ends_emit (Nat.le_refl _)

section Nlas

variable [PacketUtils] {α : Type} {t : α → Nla} {as : List α} {P : α → Prop} {n : Nla} {Q : Prop}

/-- An attribute ends when its payload does. -/
theorem Emitter.EndsIf.emitNla (hs : Frames n.valueLen) (h : EndsIf n.emitValue n.valueLen Q) :
    EndsIf (emitNla n) n.bufferLen Q := by
  have hlen : ∀ b : Bytes, b.length = n.bufferLen →
      ((b.drop 4).take n.valueLen).length = n.valueLen := by
    intro b hb
    have hle := le_nlaAlign n.valueLen
    rw [List.length_take, List.length_drop, hb, Nla.bufferLen]
    omega
  constructor
  · intro hQ b hb
    obtain ⟨v, hv⟩ := h.ends hQ _ (hlen b hb)
    exact ⟨_, by rw [emitNla_run hs hb, hv]; rfl⟩
  · intro hQ b hb
    rw [emitNla_run hs hb, h.panics hQ _ (hlen b hb)]
    rfl

/-- **A list of attributes ends when each payload does.** -/
theorem endsIf_emitNlas (hs : ∀ a ∈ as, Frames (t a).valueLen)
    (h : ∀ a ∈ as, EndsIf (t a).emitValue (t a).valueLen (P a)) :
    EndsIf (emitNlas (as.map t)) (nlasLen (as.map t)) (∀ a ∈ as, P a) := by
  induction as with
  | nil => exact Ends.endsIf (fun b _ => ⟨b, emitNlas_nil⟩) (by simp)
  | cons a as ih =>
    obtain ⟨ha, has⟩ := List.forall_mem_cons.1 h
    obtain ⟨hsa, hs⟩ := List.forall_mem_cons.1 hs
    have hhead := ha.emitNla hsa
    have htail := ih hs has
    have hsplit : ∀ b : Bytes, b.length = nlasLen ((a :: as).map t) →
        (b.take (t a).bufferLen).length = (t a).bufferLen ∧
          (b.drop (t a).bufferLen).length = nlasLen (as.map t) := by
      intro b hb
      rw [List.map_cons, nlasLen_cons] at hb
      rw [List.length_take, List.length_drop]
      omega
    constructor
    · intro hP b hb
      obtain ⟨hPa, hPas⟩ := List.forall_mem_cons.1 hP
      obtain ⟨hlen, hlen'⟩ := hsplit b hb
      obtain ⟨head, hh⟩ := hhead.ends hPa _ hlen
      obtain ⟨tail, ht⟩ := htail.ends hPas _ hlen'
      exact ⟨head ++ tail, by rw [List.map_cons, emitNlas_cons hb.ge, hh, ht]; rfl⟩
    · intro hP b hb
      obtain ⟨hlen, hlen'⟩ := hsplit b hb
      rw [List.map_cons, emitNlas_cons hb.ge]
      by_cases hPa : P a
      · obtain ⟨head, hh⟩ := hhead.ends hPa _ hlen
        have hPas : ¬ ∀ c ∈ as, P c := fun h => hP (List.forall_mem_cons.2 ⟨hPa, h⟩)
        rw [hh, htail.panics hPas _ hlen']
        rfl
      · rw [hhead.panics hPa _ hlen]
        rfl

/-- And a list that is a payload always, when those of its attributes
do. -/
theorem ends_emitNlas (hs : Frames (nlasLen (as.map t)))
    (h : ∀ a ∈ as, Frames (t a).valueLen → Ends (t a).emitValue (t a).valueLen) :
    Ends (emitNlas (as.map t)) (nlasLen (as.map t)) := by
  have hall : ∀ a ∈ as, Frames (t a).valueLen := fun _ ha => frames_of_mem hs ha
  exact (endsIf_emitNlas hall fun a ha => (h a ha (hall a ha)).endsIf trivial).ends
    fun _ _ => trivial

/-- **A message ends when its attributes do.** -/
theorem MessageFormat.endsIf_emit {η : Type} (F : MessageFormat η α) {m : Message η α}
    (hs : ∀ a ∈ m.attributes, Frames (F.nla a).valueLen)
    (h : ∀ a ∈ m.attributes, EndsIf (F.nla a).emitValue (F.nla a).valueLen (P a)) :
    EndsIf (F.emit m) (F.bufferLen m) (∀ a ∈ m.attributes, P a) := by
  have htail : EndsIf (onTail F.header.len (emitNlas (m.attributes.map F.nla))) (F.bufferLen m)
      (∀ a ∈ m.attributes, P a) := by
    refine EndsIf.onTail ?_ (Nat.le_add_right _ _)
    rw [MessageFormat.bufferLen, Nat.add_sub_cancel_left]
    exact endsIf_emitNlas hs h
  exact (F.header.ends_emit (Nat.le_add_right _ _)).andThen_endsIf htail

end Nlas

end NetlinkRoute
