import NetlinkRoute.Common.Ends
/-!
# Emitters in longer buffers

An emitter that needs `n` bytes takes the first `n` of a longer buffer as
it would a buffer of that length, and leaves the others alone (`Within`).
The rules follow the statements that emitters are made of: what is written
into its own part of the buffer keeps to that part, whatever is done there
(`within_onSlice`, `within_inTurn`), and so a list of attributes keeps to
the room that it asks for, and a message does
(`MessageFormat.within_emit`).
-/

namespace NetlinkRoute

open PacketUtils Emitter

namespace Emitter

variable {e e₁ e₂ : Emitter} {b bs : Bytes} {lo hi off n m : ℕ}

/-- What is behind the first `n` bytes does not matter to `e`, and stays. -/
def Within (e : Emitter) (n : ℕ) : Prop :=
  ∀ b c : Bytes, n ≤ b.length → e.run (b ++ c) = (· ++ c) <$> e.run b

/-- An emitter within `n` leaves the bytes behind `n` as they are. -/
theorem Within.run_eq (h : Within e n) (hle : n ≤ b.length) :
    e.run b = (· ++ b.drop n) <$> e.run (b.take n) := by
  have happ := h (b.take n) (b.drop n) (List.length_take_of_le hle).ge
  rwa [List.take_append_drop] at happ

theorem Within.mono (h : Within e n) (hle : n ≤ m) : Within e m :=
  fun b c hm => h b c (hle.trans hm)

theorem within_skip : Within skip n := fun _ _ _ => rfl

/-- A write is within its end. -/
theorem within_put (h : off + bs.length ≤ n) : Within (put off bs) n := by
  intro b c hb
  have hend : off + bs.length ≤ b.length := h.trans hb
  have hoff : off ≤ b.length := by omega
  rw [put_run (by rw [List.length_append]; omega), put_run hend, Outcome.map_ok,
    List.take_append_of_le_length hoff, List.drop_append_of_le_length hend]
  simp only [List.append_assoc]

/-- Two steps within a bound are within it together. -/
theorem Within.andThen (h₁ : Within e₁ n) (h₂ : Within e₂ n) : Within (e₁.andThen e₂) n := by
  intro b c hb
  rw [andThen_run, andThen_run, h₁ b c hb]
  cases hrun : e₁.run b with
  | ok d =>
    have hlen := e₁.length_run hrun
    rw [Outcome.map_ok, Outcome.ok_bind, Outcome.ok_bind, h₂ d c (by omega)]
  | err t => rfl
  | panic => rfl

/-- What is done to a part of the buffer keeps to it. -/
theorem within_onSlice (hle : lo ≤ hi) (h : hi ≤ n) : Within (onSlice lo hi e) n := by
  intro b c hb
  have hhi : hi ≤ b.length := h.trans hb
  have hlo : lo ≤ b.length := hle.trans hhi
  have hmid : ((b ++ c).drop lo).take (hi - lo) = (b.drop lo).take (hi - lo) := by
    rw [List.drop_append_of_le_length hlo,
      List.take_append_of_le_length (by rw [List.length_drop]; omega)]
  rw [onSlice_run hle (by rw [List.length_append]; omega), onSlice_run hle hhi, hmid,
    List.take_append_of_le_length hlo, List.drop_append_of_le_length hhi]
  cases e.run ((b.drop lo).take (hi - lo)) with
  | ok v => simp
  | err t => rfl
  | panic => rfl

/-- On a tail the bound moves by the offset. -/
theorem Within.onTail (h : Within e m) : Within (onTail lo e) (lo + m) := by
  intro b c hb
  have hlo : lo ≤ b.length := by omega
  rw [onTail_run (by rw [List.length_append]; omega), onTail_run hlo,
    List.take_append_of_le_length hlo, List.drop_append_of_le_length hlo,
    h _ c (by rw [List.length_drop]; omega)]
  cases e.run (b.drop lo) with
  | ok v => simp
  | err t => rfl
  | panic => rfl

/-- **Items that are written in turn** keep to the room of all of them. -/
theorem within_inTurn {items : List (ℕ × Emitter)} : Within (inTurn items) (itemsLen items) := by
  induction items with
  | nil => exact within_skip
  | cons item items ih =>
    rw [itemsLen_cons]
    exact (within_onSlice (Nat.zero_le _) (Nat.le_add_right _ _)).andThen ih.onTail

/-- Fields are within a bound that each of them is within. -/
theorem within_fields {fs : List (ℕ × Bytes)} (h : ∀ f ∈ fs, f.1 + f.2.length ≤ n) :
    Within (fields fs) n := by
  induction fs with
  | nil => exact within_skip
  | cons f fs ih =>
    obtain ⟨hf, hfs⟩ := List.forall_mem_cons.1 h
    exact (within_put hf).andThen (ih hfs)

/-- What an emitter covers bounds it. -/
theorem Covers.within (h : Covers e bs) : Within e bs.length := by
  intro b c hb
  rw [h (b ++ c) (by rw [List.length_append]; omega), h b hb, Outcome.map_ok,
    List.drop_append_of_le_length hb, List.append_assoc]

/-- A header, and what is written behind it. -/
theorem Within.andThen_onTail (h₁ : Within e₁ n) (h : Within e m) :
    Within (e₁.andThen (Emitter.onTail n e)) (n + m) :=
  (h₁.mono (Nat.le_add_right _ _)).andThen h.onTail

end Emitter

section Messages

variable [PacketUtils] {ns : List Nla}

/-- Attributes are within their own length. -/
theorem within_emitNlas : Within (emitNlas ns) (nlasLen ns) := by
  intro b c hb
  have hlen : itemsLen (ns.map fun n => (n.bufferLen, emitNla n)) = nlasLen ns := by
    simp [itemsLen, nlasLen, Function.comp_def]
  have hitems : Within (inTurn (ns.map fun n => (n.bufferLen, emitNla n))) (nlasLen ns) :=
    hlen ▸ within_inTurn
  rw [emitNlas_run (by rw [List.length_append]; omega), emitNlas_run hb]
  exact hitems b c hb

/-- **A message keeps to the room that it asks for.** -/
theorem MessageFormat.within_emit {η α : Type} (F : MessageFormat η α) {m : Message η α} :
    Within (F.emit m) (F.bufferLen m) := by
  have hheader : Within (F.header.emit m.header) F.header.len :=
    within_fields ((F.header.ascending m.header).add_le)
  exact hheader.andThen_onTail within_emitNlas

end Messages

end NetlinkRoute
