import NetlinkRoute.Common.Carried
/-!
# Framing — a header, and attributes to the end

A string is framed when behind its header it is attributes up to its end:
the iterator meets no error, and finds attributes of these kinds and
lengths in this order (`Framed`). What the emitter of a list leaves in a
buffer is framed so, whatever was in the buffer before, and whatever the
payloads are (`exists_of_emitNlas_run`, `MessageFormat.framed`).
-/

namespace NetlinkRoute

open PacketUtils Emitter

/-- The kind word of an attribute and the length of its payload. -/
def Nla.head (n : Nla) : UInt16 × ℕ := (n.kind, n.valueLen)

/-- The same of an attribute that stands in a buffer. -/
def headOf (a : UInt16 × Bytes) : UInt16 × ℕ := (a.1, a.2.length)

/-- What an emitter that ends leaves of a header and what is behind it. -/
theorem Emitter.exists_of_andThen_onTail_run {e₁ e : Emitter} {n : ℕ} {b out : Bytes}
    (h : (e₁.andThen (onTail n e)).run b = .ok out) (hle : n ≤ b.length) :
    ∃ hdr c tail, out = hdr ++ tail ∧ hdr.length = n ∧ c.length = b.length - n ∧
      e.run c = .ok tail := by
  rw [andThen_run, Outcome.bind_eq_ok] at h
  obtain ⟨d, hd, h⟩ := h
  have hlen := e₁.length_run hd
  rw [onTail_run (hle.trans_eq hlen.symm), Outcome.map_eq_ok] at h
  obtain ⟨tail, htail, rfl⟩ := h
  refine ⟨d.take n, d.drop n, tail, rfl, ?_, ?_, htail⟩
  · rw [List.length_take]
    omega
  · rw [List.length_drop, hlen]

section

variable [PacketUtils] {n : Nla} {ns : List Nla} {b out : Bytes} {l : List (UInt16 × Bytes)}

/-- What the emitter of an attribute leaves in a buffer of its length. -/
theorem exists_of_emitNla_run (hs : n.valueLen ≤ 65531) (hb : b.length = n.bufferLen)
    (h : (emitNla n).run b = .ok out) :
    ∃ v, out = encodeNla n.kind v ∧ v.length = n.valueLen := by
  have hal := le_nlaAlign n.valueLen
  rw [emitNla_run (frames_of_le hs) hb, Outcome.map_eq_ok] at h
  obtain ⟨v, hv, rfl⟩ := h
  have hlen : v.length = n.valueLen := by
    rw [n.emitValue.length_run hv, List.length_take, List.length_drop, hb, Nla.bufferLen]
    omega
  exact ⟨v, by rw [encodeNla, hlen], hlen⟩

/-- **What the emitter of a list leaves are attributes with these heads.** -/
theorem exists_of_emitNlas_run (hs : ∀ n ∈ ns, n.valueLen ≤ 65531) (hb : b.length = nlasLen ns)
    (h : (emitNlas ns).run b = .ok out) :
    ∃ l, out = encodeNlas l ∧ l.map headOf = ns.map Nla.head := by
  induction ns generalizing b out with
  | nil =>
    rw [emitNlas_nil, Outcome.ok.injEq] at h
    rw [List.eq_nil_of_length_eq_zero hb] at h
    exact ⟨[], h.symm, rfl⟩
  | cons n ns ih =>
    rw [emitNlas_cons hb.ge] at h
    rw [nlasLen_cons] at hb
    obtain ⟨head, hh, h⟩ := (Outcome.bind_eq_ok _ _).1 h
    obtain ⟨tail, ht, heq⟩ := (Outcome.bind_eq_ok _ _).1 h
    cases heq
    obtain ⟨hn, hs⟩ := List.forall_mem_cons.1 hs
    obtain ⟨v, rfl, hv⟩ := exists_of_emitNla_run hn (by rw [List.length_take]; omega) hh
    obtain ⟨l, rfl, hl⟩ := ih hs (by rw [List.length_drop]; omega) ht
    refine ⟨(n.kind, v) :: l, rfl, ?_⟩
    rw [List.map_cons, List.map_cons, hl, headOf, hv, Nla.head]

/-- Attributes end at multiples of four. -/
theorem four_dvd_length_encodeNlas : 4 ∣ (encodeNlas l).length := by
  induction l with
  | nil => exact ⟨0, rfl⟩
  | cons a l ih =>
    rw [encodeNlas_cons, List.length_append, length_encodeNla]
    unfold nlaAlign
    omega

/-- An encoded list is intact to its end. -/
theorem intact_encodeNlas (hl : Consistent l) : Intact (encodeNlas l) := by
  induction l with
  | nil => simp [Intact, nlas_nil]
  | cons a l ih =>
    obtain ⟨ha, hl⟩ := List.forall_mem_cons.1 hl
    rw [Intact, encodeNlas_cons, nlas_encodeNla ha]
    exact List.forall_mem_cons.2 ⟨⟨_, rfl⟩, ih hl⟩

/-- Behind `k` bytes there are attributes up to the end, and they have
these kinds and lengths. -/
structure Framed (k : ℕ) (heads : List (UInt16 × ℕ)) (b : Bytes) : Prop where
  le : k ≤ b.length
  aligned : 4 ∣ b.length - k
  intact : Intact (b.drop k)
  heads_eq : (carried (b.drop k)).map headOf = heads

/-- A header followed by an encoded list is framed, attribute by attribute. -/
theorem framed_append {hdr : Bytes} {heads : List (UInt16 × ℕ)} (hl : l.map headOf = heads)
    (hs : ∀ a ∈ heads, a.2 ≤ 65531) : Framed hdr.length heads (hdr ++ encodeNlas l) := by
  have hcons : Consistent l := by
    subst hl
    exact fun a ha => hs (headOf a) (List.mem_map_of_mem ha)
  refine ⟨by simp, ?_, ?_, ?_⟩
  · rw [List.length_append, Nat.add_sub_cancel_left]
    exact four_dvd_length_encodeNlas
  · rw [List.drop_left]
    exact intact_encodeNlas hcons
  · rw [List.drop_left, carried_encodeNlas hcons, hl]

/-- What is written behind a header. -/
theorem framed_of_run {e : Emitter} {k : ℕ}
    (h : (e.andThen (onTail k (emitNlas ns))).run b = .ok out) (hb : b.length = k + nlasLen ns)
    (hs : ∀ n ∈ ns, n.valueLen ≤ 65531) : Framed k (ns.map Nla.head) out := by
  obtain ⟨hdr, c, tail, rfl, rfl, hc, htail⟩ :=
    exists_of_andThen_onTail_run h (hb ▸ Nat.le_add_right _ _)
  obtain ⟨l, rfl, hl⟩ := exists_of_emitNlas_run hs (by omega) htail
  exact framed_append hl (List.forall_mem_map.2 hs)

/-- **What a message is written to is framed.** -/
theorem MessageFormat.framed {η α : Type} (F : MessageFormat η α) {m : Message η α}
    (h : (F.emit m).run b = .ok out) (hb : b.length = F.bufferLen m) (hs : F.Sized m) :
    Framed F.header.len (m.attributes.map fun a => (F.nla a).head) out := by
  have hframed := framed_of_run h hb (List.forall_mem_map.2 hs)
  rwa [List.map_map] at hframed

end

end NetlinkRoute
