import NetlinkRoute.Common.Utils
import NetlinkRoute.Common.Select
import NetlinkRoute.Common.ForEach
import NetlinkRoute.Common.Struct
/-!
# Attribute lists — reading, writing, and reading what was written

The theory of `PacketUtils` that every message family is proved with. An
attribute as its parser sees it is a kind word and a payload (`Carries`);
the bytes of a list of attributes are read back as that list
(`nlas_encodeNlas`); a loop over a list of attributes succeeds, fails or
panics as its steps do (`forEach_eq_ok_iff`, `forEach_eq_panic_iff`); a
list of attributes is written uniformly exactly when each payload is
(`uniform_emitNlas_iff`).
-/

namespace NetlinkRoute

open PacketUtils Emitter

/-! ## Parsers of one width -/

namespace FixedWidth

variable {α : Type} {parse : Bytes → Outcome α} {w : ℕ} {dec : Bytes → α}
  (h : FixedWidth parse w dec)

include h

/-- A fixed-width value is read from a payload of exactly its width. -/
theorem eq_ok_iff {b : Bytes} {a : α} : parse b = .ok a ↔ b.length = w ∧ dec b = a := by
  by_cases hb : b.length = w
  · simp [h.ok b hb, hb]
  · obtain ⟨e, he⟩ := h.err b hb
    simp [he, hb]

/-- Another length is an error, never a panic. -/
theorem ne_panic (b : Bytes) : parse b ≠ .panic := by
  by_cases hb : b.length = w
  · simp [h.ok b hb]
  · obtain ⟨e, he⟩ := h.err b hb
    simp [he]

end FixedWidth

variable [PacketUtils] {b : Bytes}

@[simp] theorem parseU8_ne_panic : parseU8 b ≠ .panic := parseU8_spec.ne_panic b
@[simp] theorem parseU16_ne_panic : parseU16 b ≠ .panic := parseU16_spec.ne_panic b
@[simp] theorem parseU32_ne_panic : parseU32 b ≠ .panic := parseU32_spec.ne_panic b
@[simp] theorem parseU64_ne_panic : parseU64 b ≠ .panic := parseU64_spec.ne_panic b
@[simp] theorem parseI32_ne_panic : parseI32 b ≠ .panic := parseI32_spec.ne_panic b
@[simp] theorem parseU16Be_ne_panic : parseU16Be b ≠ .panic := parseU16Be_spec.ne_panic b
@[simp] theorem parseU32Be_ne_panic : parseU32Be b ≠ .panic := parseU32Be_spec.ne_panic b
@[simp] theorem parseMac_ne_panic : parseMac b ≠ .panic := parseMac_spec.ne_panic b

@[simp] theorem parseIp_ne_panic : parseIp b ≠ .panic := by
  by_cases h4 : b.length = 4
  · simp [parseIp_four h4]
  · by_cases h16 : b.length = 16
    · simp [parseIp_sixteen h16]
    · obtain ⟨e, he⟩ := parseIp_other h4 h16
      simp [he]

@[simp] theorem parseString_ne_panic : parseString b ≠ .panic := by
  cases hs : ofUtf8? (stripNul b) with
  | none =>
    obtain ⟨e, he⟩ := parseString_none hs
    simp [he]
  | some s => simp [parseString_some hs]

@[simp] theorem checkedBuffer_ne_panic {s : String} {n : ℕ} : checkedBuffer s n b ≠ .panic := by
  rcases Nat.lt_or_ge b.length n with h | h
  · obtain ⟨e, he⟩ := checkedBuffer_of_lt (s := s) h
    simp [he]
  · simp [checkedBuffer_of_le h]

/-- A checked buffer is the payload itself, once it is long enough. -/
theorem checkedBuffer_eq_ok_iff {s : String} {n : ℕ} {c : Bytes} :
    checkedBuffer s n b = .ok c ↔ n ≤ b.length ∧ b = c := by
  rcases Nat.lt_or_ge b.length n with h | h
  · obtain ⟨e, he⟩ := checkedBuffer_of_lt (s := s) h
    simp only [he, reduceCtorEq, false_iff]
    omega
  · simp [checkedBuffer_of_le h, h]

@[simp] theorem parseU8_singleton {v : UInt8} : parseU8 [v] = .ok v := parseU8_spec.ok _ rfl
@[simp] theorem parseU16_u16 {v : UInt16} : parseU16 (ne.u16 v) = .ok v := by
  rw [parseU16_spec.ok _ (length_u16 _ _), toU16_u16]
@[simp] theorem parseU32_u32 {v : UInt32} : parseU32 (ne.u32 v) = .ok v := by
  rw [parseU32_spec.ok _ (length_u32 _ _), toU32_u32]
@[simp] theorem parseU64_u64 {v : UInt64} : parseU64 (ne.u64 v) = .ok v := by
  rw [parseU64_spec.ok _ (length_u64 _ _), toU64_u64]
@[simp] theorem parseI32_i32 {v : Int32} : parseI32 (ne.i32 v) = .ok v := by
  rw [parseI32_spec.ok _ (length_i32 _ _), toI32_i32]
@[simp] theorem parseU16Be_u16 {v : UInt16} : parseU16Be (be.u16 v) = .ok v := by
  rw [parseU16Be_spec.ok _ (length_u16 _ _), toU16_u16]

@[simp] theorem parseMac_val {a : Octets 6} : parseMac a.val = .ok a := by
  rw [parseMac_spec.ok _ a.property, Octets.ofBytes_coe]

/-- A string comes back from its bytes and a terminator. -/
@[simp] theorem parseString_utf8_nul {s : String} : parseString (utf8 s ++ [0]) = .ok s :=
  parseString_some (by rw [stripNul, if_pos (by simp), List.dropLast_concat, ofUtf8?_eq_some])

/-! ## Payloads of one value -/

section Payloads

variable {v8 : UInt8} {v16 : UInt16} {v32 : UInt32} {v64 : UInt64} {i32 : Int32}

omit [PacketUtils]

/-- The values of fixed width are written as their bytes in the order the
attribute has, addresses and raw bytes as they are. -/
theorem writes_u8 : Writes (.put 0 [v8]) 1 [v8] := writes_put rfl

theorem writes_u16Be : Writes (.put 0 (be.u16 v16)) 2 (be.u16 v16) := writes_put (length_u16 _ _)

theorem writes_octets {n : ℕ} {a : Octets n} : Writes (.copy a.val) n a.val :=
  writes_copy a.property

theorem writes_bytes : Writes (.copy b) b.length b := writes_copy rfl

variable [Host]

theorem writes_u16 : Writes (.put 0 (ne.u16 v16)) 2 (ne.u16 v16) := writes_put (length_u16 _ _)

theorem writes_u32 : Writes (.put 0 (ne.u32 v32)) 4 (ne.u32 v32) := writes_put (length_u32 _ _)

theorem writes_u64 : Writes (.put 0 (ne.u64 v64)) 8 (ne.u64 v64) := writes_put (length_u64 _ _)

theorem writes_i32 : Writes (.put 0 (ne.i32 i32)) 4 (ne.i32 i32) := writes_put (length_i32 _ _)

end Payloads

/-! ## Structures and lists -/

/-- A structure read through its checked buffer, with one context for
both steps. -/
def StructCodec.parseChecked {α : Type} (s : StructCodec α) (name ctx : String)
    (payload : Bytes) : Outcome α := do
  let buf ← (checkedBuffer name s.len payload).context ctx
  (s.parse buf).context ctx

/-- The loop the program writes for a list of attributes: each is taken
from the iterator with one context and parsed with another, and the first
error ends it. -/
def parseNlas {α : Type} (err err' : String) (parse : NlaBuffer → Outcome α) (payload : Bytes) :
    Outcome (List α) :=
  forEach (fun nla => do let nla ← nla.context err; (parse nla).context err') (nlas payload)

/-- The same loop where the parser's errors get no context. -/
def parseEachWith {α : Type} (err : String) (parse : NlaBuffer → Outcome α) (payload : Bytes) :
    Outcome (List α) :=
  forEach (fun nla => do parse (← nla.context err)) (nlas payload)

/-- And where the text of the context is built anew, and can panic, at
every turn. -/
def parseEachEager {α : Type} (text : Outcome String) (parse : NlaBuffer → Outcome α)
    (payload : Bytes) : Outcome (List α) :=
  forEach (fun nla => do parse (← nla.contextWith text)) (nlas payload)

/-! ## One attribute -/

/-- The buffer holds a valid attribute with this kind word and payload. -/
structure Carries (nb : NlaBuffer) (word : UInt16) (v : Bytes) : Prop where
  valid : NlaValid nb.buffer
  word_eq : nlaWord nb.buffer = word
  value_eq : nlaValue nb.buffer = v

namespace Carries

variable {nb : NlaBuffer} {word : UInt16} {v : Bytes} (h : Carries nb word v)

include h

/-- The three accessors read a carried attribute without a failure. -/
theorem value : PacketUtils.value nb = .ok v := by
  rw [value_of_valid h.valid, h.value_eq]

theorem kind : PacketUtils.kind nb = .ok (word &&& NLA_TYPE_MASK) := by
  have hv := h.valid
  rw [kind_of_le (by unfold NlaValid at hv; omega), h.word_eq]

theorem defaultNla : PacketUtils.defaultNla nb = .ok ⟨word, v⟩ := by
  rw [defaultNla_of_valid h.valid, h.word_eq, h.value_eq]

/-- A parser reads the payload, then the kind. -/
theorem bind {β : Type} (F : Bytes → UInt16 → Outcome β) :
    (do let p ← PacketUtils.value nb; let k ← PacketUtils.kind nb; F p k) =
      F v (word &&& NLA_TYPE_MASK) := by
  rw [h.value, Outcome.ok_bind, h.kind, Outcome.ok_bind]

end Carries

/-- A valid buffer carries its own word and payload. -/
theorem NlaValid.carries {nb : NlaBuffer} (h : NlaValid nb.buffer) :
    Carries nb (nlaWord nb.buffer) (nlaValue nb.buffer) := ⟨h, rfl, rfl⟩

/-- The kind of an attribute on the wire. -/
abbrev wireKind (nb : NlaBuffer) : UInt16 := nlaWord nb.buffer &&& NLA_TYPE_MASK

/-- The length word counts the header of four bytes and the payload. -/
theorem NlaValid.length_value (h : NlaValid b) : (nlaValue b).length + 4 = nlaLength b := by
  unfold NlaValid at h
  simp only [nlaValue, List.length_drop, List.length_take]
  omega

theorem NlaValid.ne_nil (h : NlaValid b) : b ≠ [] := by
  rintro rfl
  have h1 := h.1
  have h2 := h.2
  rw [List.length_nil] at h2
  omega

/-- The attribute is none of the kinds that a table names. -/
def DefaultNla.Unknown (n : DefaultNla) (kinds : List UInt16) : Prop :=
  n.kind &&& NLA_TYPE_MASK ∉ kinds

instance (n : DefaultNla) (kinds : List UInt16) : Decidable (n.Unknown kinds) :=
  inferInstanceAs (Decidable (_ ∉ _))

/-- A type of attributes that names no kind: each is kept as it is. -/
structure UnnamedNla where
  other : DefaultNla
deriving DecidableEq

namespace UnnamedNla

omit [PacketUtils] in
/-- The attribute, as the attribute layer sees it. -/
def nla (a : UnnamedNla) : Nla := ⟨a.other.valueLen, a.other.kind, a.other.emitValue⟩

/-- The text of the error names the kind or the payload. -/
def parse (text : UInt16 → Bytes → String) (buf : NlaBuffer) : Outcome UnnamedNla := do
  let payload ← value buf
  let kind ← PacketUtils.kind buf
  UnnamedNla.mk <$> (defaultNla buf).context (text kind payload)

/-- An attribute left unnamed keeps its kind word and payload. -/
theorem parse_of_carries {text : UInt16 → Bytes → String} {nb : NlaBuffer} {word : UInt16}
    {v : Bytes} (hc : Carries nb word v) : parse text nb = .ok ⟨⟨word, v⟩⟩ := by
  rw [parse, hc.bind, hc.defaultNla]
  rfl

/-- It is read without a panic. -/
theorem parse_ne_panic {text : UInt16 → Bytes → String} {nb : NlaBuffer}
    (hv : NlaValid nb.buffer) : parse text nb ≠ .panic := by
  rw [parse_of_carries hv.carries]
  simp

end UnnamedNla

/-! ## What the iterator yields -/

omit [PacketUtils] in
theorem le_nlaAlign (n : ℕ) : n ≤ nlaAlign n := by
  unfold nlaAlign
  omega

/-- The rest behind an attribute is shorter, so the iterator ends. -/
theorem NlaValid.length_rest_lt (h : NlaValid b) :
    (b.drop (nlaAlign (nlaLength b))).length < b.length := by
  have := le_nlaAlign (nlaLength b)
  have h1 := h.1
  have h2 := h.2
  rw [List.length_drop]
  omega

/-- Induction along the attributes of a buffer. -/
theorem nlas_ind {P : Bytes → Prop} (hnil : P [])
    (hvalid : ∀ b, NlaValid b → P (b.drop (nlaAlign (nlaLength b))) → P b)
    (hbad : ∀ b, b ≠ [] → ¬ NlaValid b → P b) (b : Bytes) : P b := by
  induction hn : b.length using Nat.strongRecOn generalizing b with
  | _ n ih =>
    subst hn
    by_cases hv : NlaValid b
    · exact hvalid b hv (ih _ hv.length_rest_lt _ rfl)
    · by_cases hb : b = []
      · exact hb ▸ hnil
      · exact hbad b hb hv

/-- Every attribute the iterator hands out is valid. -/
theorem valid_of_mem_nlas {nb : NlaBuffer} (h : .ok nb ∈ nlas b) : NlaValid nb.buffer := by
  induction b using nlas_ind with
  | hnil => simp [nlas_nil] at h
  | hvalid b hv ih =>
    rw [nlas_of_valid hv] at h
    rcases List.mem_cons.1 h with h | h
    · cases h
      exact hv
    · exact ih h
  | hbad b hb hv =>
    obtain ⟨e, he⟩ := nlas_of_not_valid hb hv
    simp [he] at h

/-- An attribute behind a header is one of the bytes behind it, so that the
header fits. -/
theorem le_length_of_mem_nlas_drop {o : Outcome NlaBuffer} {n : ℕ} (h : o ∈ nlas (b.drop n)) :
    n ≤ b.length := by
  by_contra hlt
  have hnil : b.drop n = [] := List.drop_eq_nil_of_le (by omega)
  rw [hnil, nlas_nil] at h
  simp at h

/-- An attribute of a buffer is no longer than the buffer. -/
theorem length_le_of_mem_nlas {nb : NlaBuffer} (h : .ok nb ∈ nlas b) :
    nb.buffer.length ≤ b.length := by
  induction b using nlas_ind with
  | hnil => simp [nlas_nil] at h
  | hvalid b hv ih =>
    rw [nlas_of_valid hv] at h
    rcases List.mem_cons.1 h with h | h
    · cases h
      exact Nat.le_refl _
    · exact Nat.le_trans (ih h) (Nat.le_of_lt hv.length_rest_lt)
  | hbad b hb hv =>
    obtain ⟨e, he⟩ := nlas_of_not_valid hb hv
    simp [he] at h

/-- The iterator itself never panics. -/
theorem panic_not_mem_nlas : .panic ∉ nlas b := by
  induction b using nlas_ind with
  | hnil => simp [nlas_nil]
  | hvalid b hv ih => simp [nlas_of_valid hv, ih]
  | hbad b hb hv =>
    obtain ⟨e, he⟩ := nlas_of_not_valid hb hv
    simp [he]

/-- The payload of an attribute of a buffer is strictly shorter. -/
theorem length_value_lt_of_mem_nlas {nb : NlaBuffer} (h : .ok nb ∈ nlas b) :
    (nlaValue nb.buffer).length < b.length := by
  have hv := valid_of_mem_nlas h
  have h1 := hv.length_value
  have h2 := hv.2
  have h3 := length_le_of_mem_nlas h
  omega

/-! ## The bytes of an attribute list -/

/-- The bytes of one attribute. -/
def encodeNla (word : UInt16) (v : Bytes) : Bytes :=
  header v.length word ++ v ++ zeros (nlaAlign v.length - v.length)

/-- The bytes of a list of attributes, each a kind word and a payload. -/
def encodeNlas (l : List (UInt16 × Bytes)) : Bytes := l.flatMap fun a => encodeNla a.1 a.2

@[simp] theorem encodeNlas_nil : encodeNlas [] = [] := rfl

@[simp] theorem encodeNlas_cons {a : UInt16 × Bytes} {l : List (UInt16 × Bytes)} :
    encodeNlas (a :: l) = encodeNla a.1 a.2 ++ encodeNlas l := rfl

/-- An encoded attribute is four bytes of header and the padded payload. -/
@[simp] theorem length_encodeNla {word : UInt16} {v : Bytes} :
    (encodeNla word v).length = nlaAlign v.length + 4 := by
  have := le_nlaAlign v.length
  simp only [encodeNla, List.length_append, length_header, length_zeros]
  omega

section EncodeOne

variable {word : UInt16} {v rest : Bytes} (hv : v.length ≤ 65531)

include hv

/-- Its length word leaves the padding out. -/
theorem nlaLength_encodeNla : nlaLength (encodeNla word v ++ rest) = v.length + 4 := by
  simp only [nlaLength, encodeNla, header_eq hv, List.append_assoc]
  rw [List.take_left' (length_u16 _ _), toU16_u16]
  simp only [UInt16.toNat_ofNat']
  omega

/-- It carries its kind word and payload, whatever follows. -/
theorem carries_encodeNla : Carries ⟨encodeNla word v ++ rest⟩ word v where
  valid := by
    refine ⟨by rw [nlaLength_encodeNla hv]; omega, ?_⟩
    have := le_nlaAlign v.length
    rw [nlaLength_encodeNla hv, List.length_append, length_encodeNla]
    omega
  word_eq := by
    simp only [nlaWord, encodeNla, header_eq hv, List.append_assoc]
    rw [List.drop_left' (length_u16 _ _), List.take_left' (length_u16 _ _), toU16_u16]
  value_eq := by
    rw [nlaValue, nlaLength_encodeNla hv]
    simp only [encodeNla, List.append_assoc]
    rw [List.take_append, List.drop_append, length_header]
    simp [length_header]

/-- The iterator finds it and goes on behind its padding. -/
theorem nlas_encodeNla :
    nlas (encodeNla word v ++ rest) = .ok ⟨encodeNla word v ++ rest⟩ :: nlas rest := by
  rw [nlas_of_valid (carries_encodeNla hv).valid, nlaLength_encodeNla hv]
  congr 2
  have hlen : (encodeNla word v).length = nlaAlign (v.length + 4) := by
    rw [length_encodeNla]
    unfold nlaAlign
    omega
  rw [← hlen, List.drop_left]

end EncodeOne

/-- **What was written is read.** The iterator yields the attributes of
an encoded list, one by one and in order. -/
theorem nlas_encodeNlas {l : List (UInt16 × Bytes)} (h : ∀ a ∈ l, a.2.length ≤ 65531) :
    List.Forall₂ (fun o a => ∃ nb, o = .ok nb ∧ Carries nb a.1 a.2) (nlas (encodeNlas l)) l := by
  induction l with
  | nil => simp [nlas_nil]
  | cons a l ih =>
    have ha : a.2.length ≤ 65531 := h a (by simp)
    rw [encodeNlas_cons, nlas_encodeNla ha]
    exact .cons ⟨_, rfl, carries_encodeNla ha⟩ (ih fun c hc => h c (by simp [hc]))

/-! ## Writing a list of attributes -/

omit [PacketUtils] in
/-- The length of a list of attributes is the sum of their padded lengths. -/
theorem nlasLen_cons {n : Nla} {ns : List Nla} :
    nlasLen (n :: ns) = n.bufferLen + nlasLen ns := by simp [nlasLen]

variable {n : Nla} {ns : List Nla}

omit [PacketUtils] in
private theorem length_payload_slice (h : b.length = n.bufferLen) :
    ((b.drop 4).take n.valueLen).length = n.valueLen := by
  have := le_nlaAlign n.valueLen
  unfold Nla.bufferLen at h
  rw [List.length_take, List.length_drop]
  omega

/-- An attribute is written uniformly when its payload is. -/
theorem Writes.emitNla {v : Bytes} (hs : Frames n.valueLen)
    (h : Writes n.emitValue n.valueLen v) :
    Writes (emitNla n) n.bufferLen (encodeNla n.kind v) where
  length_eq := by rw [length_encodeNla, h.length_eq]; rfl
  run_eq b hb := by
    rw [emitNla_run hs hb, h.run_eq _ (length_payload_slice hb), Outcome.map_ok, encodeNla,
      h.length_eq]

/-- An attribute is emitted alike into all buffers exactly where its payload
is. -/
theorem uniform_emitNla_iff (hs : Frames n.valueLen) :
    Uniform (emitNla n) n.bufferLen ↔ Uniform n.emitValue n.valueLen := by
  constructor
  · rintro ⟨out, hout⟩
    refine ⟨(out.drop 4).take n.valueLen, ?_, fun b hb => ?_⟩
    · exact length_payload_slice hout.length_eq
    · have hal := le_nlaAlign n.valueLen
      -- the payload's own part of the buffer holds any bytes `b`
      have hlen : (zeros 4 ++ b ++ zeros (nlaAlign n.valueLen - n.valueLen)).length =
          n.bufferLen := by
        simp only [List.length_append, length_zeros, Nla.bufferLen]
        omega
      have h := hout.run_eq _ hlen
      rw [emitNla_run hs hlen, List.append_assoc, List.drop_left' (length_zeros 4),
        List.take_left' hb] at h
      obtain ⟨v, hv, rfl⟩ := (Outcome.map_eq_ok _).1 h
      have hvl : v.length = n.valueLen := by rw [n.emitValue.length_run hv, hb]
      rw [hv, List.append_assoc, List.drop_left' (length_header _ _), List.take_left' hvl]
  · rintro ⟨v, hv⟩
    exact (Writes.emitNla hs hv).uniform

/-- The list, as items written in turn. -/
private abbrev nlaItems (ns : List Nla) : List (ℕ × Emitter) :=
  ns.map fun n => (n.bufferLen, PacketUtils.emitNla n)

private theorem itemsLen_nlaItems (ns : List Nla) : itemsLen (nlaItems ns) = nlasLen ns := by
  simp only [itemsLen, List.map_map, nlasLen]
  rfl

theorem emitNlas_nil : (emitNlas []).run b = .ok b := by
  rw [emitNlas_run (by simp [nlasLen])]
  rfl

/-- A list is emitted head first, each attribute into its own part of the
buffer. -/
theorem emitNlas_cons (h : nlasLen (n :: ns) ≤ b.length) :
    (emitNlas (n :: ns)).run b = (do
      let head ← (PacketUtils.emitNla n).run (b.take n.bufferLen)
      let tail ← (emitNlas ns).run (b.drop n.bufferLen)
      .ok (head ++ tail)) := by
  rw [nlasLen_cons] at h
  rw [emitNlas_run (by rw [nlasLen_cons]; exact h), List.map_cons, run_inTurn_cons (by simp; omega),
    emitNlas_run (by rw [List.length_drop]; omega)]

/-- **A list is written uniformly exactly when each payload is.** -/
theorem uniform_emitNlas_iff (hs : ∀ n ∈ ns, Frames n.valueLen) :
    Uniform (emitNlas ns) (nlasLen ns) ↔ ∀ n ∈ ns, Uniform n.emitValue n.valueLen := by
  have h := @uniform_inTurn_iff (nlaItems ns)
  rw [itemsLen_nlaItems, List.forall_mem_map] at h
  rw [← forall₂_congr fun n hn => uniform_emitNla_iff (hs n hn), ← h]
  refine exists_congr fun bs => ⟨fun hw => ⟨hw.length_eq, fun b hb => ?_⟩,
    fun hw => ⟨hw.length_eq, fun b hb => ?_⟩⟩
  · rw [← emitNlas_run (by omega), hw.run_eq b hb]
  · rw [emitNlas_run (by omega), hw.run_eq b hb]

omit [PacketUtils] in
@[simp] theorem DefaultNla.uniform_emitValue {d : DefaultNla} :
    Uniform d.emitValue d.valueLen := (writes_copy rfl).uniform

omit [PacketUtils] in
@[simp] theorem StructCodec.uniform_emit {σ : Type} {s : StructCodec σ} {x : σ} :
    Uniform (s.emit x) s.len := s.writes_emit.uniform

/-! ## Round trips -/

/-- Written into a zeroed slice, the payload is `v`. -/
def Nla.Payload (n : Nla) (v : Bytes) : Prop := Fills n.emitValue n.valueLen v

omit [PacketUtils] in
/-- The payload an attribute writes has the length it announces. -/
theorem Nla.Payload.length_eq {v : Bytes} (h : n.Payload v) : v.length = n.valueLen :=
  Fills.length_eq h

variable {α : Type} {t : α → Nla} {v : α → Bytes} {as : List α}

/-- The attribute, written into a zeroed buffer. -/
theorem Nla.Payload.fills_emitNla {v : Bytes} (h : n.Payload v) (hs : n.valueLen ≤ 65531) :
    Fills (PacketUtils.emitNla n) n.bufferLen (encodeNla n.kind v) := by
  have hal := le_nlaAlign n.valueLen
  have hmid : min n.valueLen (n.bufferLen - 4) = n.valueLen := by
    unfold Nla.bufferLen
    omega
  rw [Fills, emitNla_run (frames_of_le hs) (length_zeros _), drop_zeros, take_zeros, hmid, h,
    Outcome.map_ok, encodeNla, h.length_eq]

/-- The list, written into a zeroed buffer. -/
theorem fills_emitNlas (h : ∀ a ∈ as, (t a).Payload (v a))
    (hs : ∀ a ∈ as, (t a).valueLen ≤ 65531) :
    Fills (emitNlas (as.map t)) (nlasLen (as.map t))
      (encodeNlas (as.map fun a => ((t a).kind, v a))) := by
  have hf := fills_inTurn_map fun a ha => (h a ha).fills_emitNla (hs a ha)
  rw [Fills, emitNlas_run (by simp), List.map_map, encodeNlas, List.flatMap_map]
  simpa [nlasLen, Fills, Function.comp_def] using hf

/-- One attribute more in front of a list. -/
theorem fills_emitNlas_cons {v out : Bytes} (h : n.Payload v) (hs : n.valueLen ≤ 65531)
    (hout : Fills (emitNlas ns) (nlasLen ns) out) :
    Fills (emitNlas (n :: ns)) (nlasLen (n :: ns)) (encodeNla n.kind v ++ out) := by
  rw [Fills, emitNlas_cons (by rw [length_zeros]), nlasLen_cons, take_zeros, drop_zeros,
    Nat.min_eq_left (Nat.le_add_right _ _), h.fills_emitNla hs, Nat.add_sub_cancel_left, hout]
  rfl

/-- A loop over the attributes of an encoded list collects the values
that its step reads from them. -/
theorem forEach_nlas_encodeNlas {g : Outcome NlaBuffer → Outcome α} {w : α → UInt16 × Bytes}
    (hlen : ∀ a ∈ as, (w a).2.length ≤ 65531)
    (h : ∀ a ∈ as, ∀ nb, Carries nb (w a).1 (w a).2 → g (.ok nb) = .ok a) :
    forEach g (nlas (encodeNlas (as.map w))) = .ok as := by
  induction as with
  | nil => simp [nlas_nil]
  | cons a as ih =>
    have ha := hlen a (by simp)
    rw [List.map_cons, encodeNlas_cons, nlas_encodeNla ha, forEach_cons,
      h a (by simp) _ (carries_encodeNla ha), Outcome.ok_bind,
      ih (fun c hc => hlen c (by simp [hc])) fun c hc => h c (by simp [hc])]
    rfl

/-- Parsing an attribute that was written gives the value back. -/
def RoundTrips (parse : NlaBuffer → Outcome α) (n : Nla) (a : α) : Prop :=
  ∃ v, n.Payload v ∧ ∀ nb, Carries nb n.kind v → parse nb = .ok a

variable {parse : NlaBuffer → Outcome α} {a : α}

/-- An attribute comes back where its parser reads what its payload writes. -/
theorem Emitter.Writes.roundTrips {v : Bytes} (h : Writes n.emitValue n.valueLen v)
    (hp : ∀ nb, Carries nb n.kind v → parse nb = .ok a) : RoundTrips parse n a :=
  ⟨v, h.fills, hp⟩

/-- An attribute that is kept as it is comes back. -/
theorem UnnamedNla.roundTrips {text : UInt16 → Bytes → String} {a : UnnamedNla} :
    RoundTrips (UnnamedNla.parse text) a.nla a :=
  writes_bytes.roundTrips fun _ hc => UnnamedNla.parse_of_carries hc

/-- A parser that wraps the values of another. -/
theorem RoundTrips.map {β : Type} {p : NlaBuffer → Outcome β} (h : RoundTrips parse n a)
    (g : α → β) (hp : ∀ nb, p nb = g <$> parse nb) : RoundTrips p n (g a) := by
  obtain ⟨v, hv, hnb⟩ := h
  exact ⟨v, hv, fun nb hc => by rw [hp, hnb nb hc]; rfl⟩

/-- **A list that is written is read back**, by any loop over the
attributes whose step reads each of them back. -/
theorem forEach_nlas_emitted {g : Outcome NlaBuffer → Outcome α}
    (hrt : ∀ a ∈ as, RoundTrips (fun nb => g (.ok nb)) (t a) a)
    (hlen : ∀ a ∈ as, (t a).valueLen ≤ 65531) :
    ∃ out, Fills (emitNlas (as.map t)) (nlasLen (as.map t)) out ∧
      forEach g (nlas out) = .ok as := by
  choose! v hv using hrt
  refine ⟨_, fills_emitNlas (fun a ha => (hv a ha).1) hlen, ?_⟩
  refine forEach_nlas_encodeNlas (fun a ha => ?_) fun a ha => (hv a ha).2
  rw [(hv a ha).1.length_eq]
  exact hlen a ha

/-- An attribute on its own comes back. -/
theorem RoundTrips.exists_emitNla (h : RoundTrips parse n a) (hs : n.valueLen ≤ 65531) :
    ∃ out, Fills (PacketUtils.emitNla n) n.bufferLen out ∧ NlaValid out ∧
      parse ⟨out⟩ = .ok a := by
  obtain ⟨v, hv, hp⟩ := h
  have hc : Carries ⟨encodeNla n.kind v ++ []⟩ n.kind v :=
    carries_encodeNla (by rw [hv.length_eq]; exact hs)
  rw [List.append_nil] at hc
  exact ⟨_, hv.fills_emitNla hs, hc.valid, hp _ hc⟩

/-- **A list whose elements come back each in the state that those before
it leave is read back** by the loop that carries the state. -/
theorem exists_forEachFrom_emitted {σ ι : Type} {g : σ → NlaBuffer → Outcome (σ × α)}
    {Fits : σ → ι → Prop} {after : σ → ι → σ} {t : ι → Nla} {r : ι → α} {s : σ} {is : List ι}
    (hstep : ∀ s, ∀ i ∈ is, Fits s i → RoundTrips (g s) (t i) (after s i, r i))
    (h : Threaded Fits after s is) (hlen : ∀ i ∈ is, (t i).valueLen ≤ 65531) :
    ∃ out, Fills (emitNlas (is.map t)) (nlasLen (is.map t)) out ∧
      forEachFrom (fun s nla => do g s (← nla)) s (nlas out) = .ok (is.map r) := by
  induction is generalizing s with
  | nil => exact ⟨[], emitNlas_nil, by simp [nlas_nil, forEachFrom]⟩
  | cons i is ih =>
    obtain ⟨hi, his⟩ := h
    obtain ⟨v, hv, hp⟩ := hstep s i (by simp) hi
    obtain ⟨out, hout, hrun⟩ := ih (fun s c hc => hstep s c (by simp [hc])) his
      fun c hc => hlen c (by simp [hc])
    have hs : (t i).valueLen ≤ 65531 := hlen i (by simp)
    have hle : v.length ≤ 65531 := by rwa [hv.length_eq]
    refine ⟨_, fills_emitNlas_cons hv hs hout, ?_⟩
    rw [nlas_encodeNla hle, forEachFrom, Outcome.ok_bind, hp _ (carries_encodeNla hle),
      Outcome.ok_bind]
    dsimp only
    rw [hrun]
    rfl

/-! ## Lists inside an attribute -/

omit [PacketUtils] in
/-- An attribute of a list is shorter than the list. -/
theorem valueLen_add_le_of_mem (h : a ∈ as) :
    (t a).valueLen + 4 ≤ nlasLen (as.map t) := by
  have hal := le_nlaAlign (t a).valueLen
  have hle : (t a).bufferLen ≤ nlasLen (as.map t) :=
    List.le_sum_of_mem (List.mem_map_of_mem (List.mem_map_of_mem h))
  unfold Nla.bufferLen at hle
  omega

/-- A list of attributes is as long as it asks for, when their payloads
are. -/
theorem length_encodeNlas_map (h : ∀ a ∈ as, (v a).length = (t a).valueLen) :
    (encodeNlas (as.map fun a => ((t a).kind, v a))).length = nlasLen (as.map t) := by
  induction as with
  | nil => rfl
  | cons a as ih =>
    obtain ⟨ha, has⟩ := List.forall_mem_cons.1 h
    rw [List.map_cons, encodeNlas_cons, List.length_append, length_encodeNla, ih has, ha,
      List.map_cons, nlasLen_cons]
    rfl

omit [PacketUtils] in
/-- What holds a list holds each attribute of it. -/
theorem valueLen_le_of_mem {k : ℕ} (hs : nlasLen (as.map t) ≤ k) (h : a ∈ as) :
    (t a).valueLen ≤ k := by
  have hle := valueLen_add_le_of_mem (t := t) h
  omega

/-- And a library that writes payloads of its size writes those of each. -/
theorem frames_of_mem (hs : Frames (nlasLen (as.map t))) (h : a ∈ as) : Frames (t a).valueLen :=
  frames_mono (valueLen_le_of_mem (Nat.le_refl _) h) hs

/-- Or one that writes them with their headers. -/
theorem frames_of_bufferLen (hs : Frames n.bufferLen) : Frames n.valueLen := by
  refine frames_mono ?_ hs
  have hal := le_nlaAlign n.valueLen
  unfold Nla.bufferLen
  omega

/-- A list that is a payload is written uniformly exactly when those of its
attributes are. -/
theorem uniform_emitNlas_map_iff (hs : Frames (nlasLen (as.map t))) :
    Uniform (emitNlas (as.map t)) (nlasLen (as.map t)) ↔
      ∀ a ∈ as, Uniform (t a).emitValue (t a).valueLen := by
  rw [uniform_emitNlas_iff (List.forall_mem_map.2 fun _ ha => frames_of_mem hs ha),
    List.forall_mem_map]

variable {err err' : String} {payload : Bytes}

/-- The payload is a list of attributes that are parsed to these values,
one by one. -/
def ReadsAs (parse : NlaBuffer → Outcome α) (payload : Bytes) (as : List α) : Prop :=
  ∃ nbs : List NlaBuffer, nlas payload = nbs.map .ok ∧
    List.Forall₂ (fun nb a => parse nb = .ok a) nbs as

/-- **A list that fits into an attribute is read back.** What comes back
for an element need not be the element itself. -/
theorem exists_readsAs {p : NlaBuffer → Outcome α} {ι : Type} {is : List ι} {t : ι → Nla}
    {r : ι → α} (hrt : ∀ i ∈ is, (t i).valueLen ≤ 65531 → RoundTrips p (t i) (r i))
    (hlen : nlasLen (is.map t) ≤ 65531) :
    ∃ out, Fills (emitNlas (is.map t)) (nlasLen (is.map t)) out ∧
      ReadsAs p out (is.map r) := by
  have hle : ∀ i ∈ is, (t i).valueLen ≤ 65531 := fun i hi => valueLen_le_of_mem hlen hi
  have hex : ∀ i ∈ is, RoundTrips p (t i) (r i) := fun i hi => hrt i hi (hle i hi)
  -- the payloads are fixed first, so that the bytes are the same for every split of the list
  choose! v hv using hex
  refine ⟨_, fills_emitNlas (fun i hi => (hv i hi).1) hle, ?_⟩
  have hvlen : ∀ i ∈ is, (v i).length ≤ 65531 := fun i hi => by
    rw [(hv i hi).1.length_eq]
    exact hle i hi
  clear hrt hlen hle
  induction is with
  | nil => exact ⟨[], by simp [nlas_nil], .nil⟩
  | cons i is ih =>
    obtain ⟨nbs, hnbs, hall⟩ := ih (fun c hc => hv c (by simp [hc]))
      fun c hc => hvlen c (by simp [hc])
    have hi := hvlen i (by simp)
    refine ⟨⟨encodeNla (t i).kind (v i) ++
      encodeNlas (is.map fun a => ((t a).kind, v a))⟩ :: nbs, ?_, .cons ?_ hall⟩
    · rw [List.map_cons, encodeNlas_cons, nlas_encodeNla hi, hnbs, List.map_cons]
    · exact (hv i (by simp)).2 _ (carries_encodeNla hi)

namespace ReadsAs

variable (h : ReadsAs parse payload as)

include h

/-- Every loop that hands the attributes to the parser. -/
theorem forEach_eq {g : Outcome NlaBuffer → Outcome α}
    (hg : ∀ nb a, parse nb = .ok a → g (.ok nb) = .ok a) :
    forEach g (nlas payload) = .ok as := by
  obtain ⟨nbs, hnbs, hall⟩ := h
  rw [hnbs, forEach_map, forEach_eq_ok_iff]
  exact hall.imp hg

/-- What reads as a list is parsed as that list, under either loop. -/
theorem parseNlas_eq : parseNlas err err' parse payload = .ok as :=
  h.forEach_eq fun nb a hp => by simp [hp]

theorem parseEachWith_eq : parseEachWith err parse payload = .ok as :=
  h.forEach_eq fun nb a hp => by simp [hp]

/-- A payload that starts with no valid attribute holds none. -/
theorem nlas_eq_nil (hv : ¬ NlaValid payload) : nlas payload = [] := by
  obtain ⟨nbs, hnbs, -⟩ := h
  by_cases hb : payload = []
  · rw [hb, nlas_nil]
  · obtain ⟨e, he⟩ := nlas_of_not_valid hb hv
    rw [he] at hnbs
    cases nbs with
    | nil => simp at hnbs
    | cons nb nbs => simp at hnbs

/-- A payload that more than nothing is read from starts with an
attribute. -/
theorem valid_of_ne_nil (hne : as ≠ []) : NlaValid payload := by
  by_contra hv
  have hnil := h.nlas_eq_nil hv
  obtain ⟨nbs, hnbs, hall⟩ := h
  rw [hnil, eq_comm, List.map_eq_nil_iff] at hnbs
  subst hnbs
  exact hne (List.forall₂_nil_left_iff.1 hall)

/-- There is an attribute in front, so the text that is made of it can be
made. -/
theorem parseEachEager_eq {text : Bytes → String} :
    parseEachEager (text <$> value ⟨payload⟩) parse payload = .ok as := by
  by_cases hv : NlaValid payload
  · rw [value_of_valid hv]
    exact h.forEach_eq fun nb a hp => by simp [hp]
  · have hnil := h.nlas_eq_nil hv
    have hrun := h.forEach_eq (g := fun nla => do parse (← nla)) fun nb a hp => hp
    rw [hnil] at hrun
    rw [parseEachEager, hnil]
    exact hrun

end ReadsAs

/-- What a loop makes of each attribute, the elements of its list are. -/
theorem holds_forEach_nlas {g : Outcome NlaBuffer → Outcome α} {P : α → Prop}
    (hg : ∀ nb, .ok nb ∈ nlas payload → (g (.ok nb)).Holds P) (herr : ∀ e, (g (.err e)).Holds P) :
    (forEach g (nlas payload)).Holds fun as => ∀ a ∈ as, P a := by
  intro as has a ha
  obtain ⟨o, ho, hoa⟩ := exists_of_mem_forEach has ha
  cases o with
  | ok nb => exact hg nb ho a hoa
  | err e => exact herr e a hoa
  | panic => exact absurd ho panic_not_mem_nlas

section Holds

variable {P : α → Prop} (h : ∀ nb, .ok nb ∈ nlas payload → (parse nb).Holds P)

include h

/-- What holds of each parsed attribute holds of all in a nested list, under
each of the three loops. -/
theorem holds_parseNlas : (parseNlas err err' parse payload).Holds fun as => ∀ a ∈ as, P a :=
  holds_forEach_nlas (by simpa using h) (by simp)

theorem holds_parseEachWith : (parseEachWith err parse payload).Holds fun as => ∀ a ∈ as, P a :=
  holds_forEach_nlas (by simpa using h) (by simp)

theorem holds_parseEachEager {text : Outcome String} :
    (parseEachEager text parse payload).Holds fun as => ∀ a ∈ as, P a := by
  refine holds_forEach_nlas (fun nb hnb => ?_) fun e => ?_
  · cases text with
    | panic => simp
    | ok s => exact h nb hnb
    | err e => exact h nb hnb
  · cases text with
    | panic => simp
    | ok s => simp
    | err e' => simp [Outcome.contextWith]

end Holds

/-- The attribute that a loop over a payload gets to: every attribute
before it was parsed. -/
def NlaReached (parse : NlaBuffer → Outcome α) (payload : Bytes) (nb : NlaBuffer) : Prop :=
  ∃ pre post, nlas payload = pre ++ .ok nb :: post ∧
    ∀ o ∈ pre, ∃ nb' a, o = .ok nb' ∧ parse nb' = .ok a

/-- An attribute the loop reaches is one of the payload. -/
theorem NlaReached.mem {nb : NlaBuffer} (h : NlaReached parse payload nb) :
    .ok nb ∈ nlas payload := by
  obtain ⟨pre, post, h, -⟩ := h
  simp [h]

/-- A loop over attributes panics when it gets to one that does. -/
theorem forEach_nlas_eq_panic_iff {g : Outcome NlaBuffer → Outcome α}
    (hok : ∀ nb a, g (.ok nb) = .ok a ↔ parse nb = .ok a)
    (hpanic : ∀ nb, g (.ok nb) = .panic ↔ parse nb = .panic)
    (herr : ∀ e, ∃ e', g (.err e) = .err e') :
    forEach g (nlas payload) = .panic ↔
      ∃ nb, NlaReached parse payload nb ∧ parse nb = .panic := by
  rw [forEach_eq_panic_iff]
  constructor
  · rintro ⟨o, ho, hp⟩
    have hmem := ho.mem
    obtain ⟨pre, post, hsplit, hpre⟩ := ho
    -- the iterator does not panic, and its errors are handed on as errors
    cases o with
    | panic => exact absurd hmem panic_not_mem_nlas
    | err e =>
      obtain ⟨e', he⟩ := herr e
      rw [he] at hp
      cases hp
    | ok nb =>
      refine ⟨nb, ⟨pre, post, hsplit, fun o ho => ?_⟩, (hpanic nb).1 hp⟩
      obtain ⟨a, ha⟩ := hpre o ho
      cases o with
      | ok nb' => exact ⟨nb', a, rfl, (hok nb' a).1 ha⟩
      | err e =>
        obtain ⟨e', he⟩ := herr e
        rw [he] at ha
        cases ha
      | panic => exact absurd (by rw [hsplit]; simp [ho]) (panic_not_mem_nlas (b := payload))
  · rintro ⟨nb, ⟨pre, post, hsplit, hpre⟩, hp⟩
    refine ⟨.ok nb, ⟨pre, post, hsplit, fun o ho => ?_⟩, (hpanic nb).2 hp⟩
    obtain ⟨nb', a, rfl, ha⟩ := hpre o ho
    exact ⟨a, (hok nb' a).2 ha⟩

/-- The loop that hands the iterator's errors on. -/
theorem forEach_bind_eq_panic_iff : forEach (fun nla => do parse (← nla)) (nlas payload) = .panic ↔
    ∃ nb, NlaReached parse payload nb ∧ parse nb = .panic :=
  forEach_nlas_eq_panic_iff (by simp) (by simp) fun e => ⟨e, rfl⟩

/-- A nested list panics exactly where the loop reaches an attribute whose
parser does. -/
theorem parseNlas_eq_panic_iff : parseNlas err err' parse payload = .panic ↔
    ∃ nb, NlaReached parse payload nb ∧ parse nb = .panic :=
  forEach_nlas_eq_panic_iff (by simp) (by simp) fun _ => ⟨_, rfl⟩

/-- Without such an attribute it does not panic. -/
theorem parseNlas_ne_panic (h : ∀ nb, .ok nb ∈ nlas payload → parse nb ≠ .panic) :
    parseNlas err err' parse payload ≠ .panic := by
  rw [Ne, parseNlas_eq_panic_iff]
  rintro ⟨nb, hr, hp⟩
  exact h nb hr.mem hp

/-- The same for the loop with one error text. -/
theorem parseEachWith_eq_panic_iff : parseEachWith err parse payload = .panic ↔
    ∃ nb, NlaReached parse payload nb ∧ parse nb = .panic :=
  forEach_nlas_eq_panic_iff (by simp) (by simp) fun _ => ⟨_, rfl⟩

/-- Without such an attribute that loop does not panic either. -/
theorem parseEachWith_ne_panic (h : ∀ nb : NlaBuffer, NlaValid nb.buffer → parse nb ≠ .panic) :
    parseEachWith err parse payload ≠ .panic := by
  rw [Ne, parseEachWith_eq_panic_iff]
  rintro ⟨nb, hr, hp⟩
  exact h nb (valid_of_mem_nlas hr.mem) hp

/-- **A text made from the payload, taken for an attribute, panics** where
the payload does not start with one. -/
theorem parseEachEager_eq_panic_iff {g : Bytes → String} :
    parseEachEager (g <$> value ⟨payload⟩) parse payload = .panic ↔
      (payload ≠ [] ∧ ¬ NlaValid payload) ∨
        ∃ nb, NlaReached parse payload nb ∧ parse nb = .panic := by
  by_cases hv : NlaValid payload
  · have hiff : forEach (fun nla => do parse (← nla.context (g (nlaValue payload))))
        (nlas payload) = .panic ↔ ∃ nb, NlaReached parse payload nb ∧ parse nb = .panic :=
      forEach_nlas_eq_panic_iff (by simp) (by simp) fun _ => ⟨_, rfl⟩
    rw [value_of_valid hv, Outcome.map_ok, parseEachEager]
    simp only [Outcome.contextWith_ok_text, hiff, hv, not_true_eq_false, and_false, false_or]
  · by_cases hnil : payload = []
    · subst hnil
      simp [parseEachEager, nlas_nil, NlaReached]
    · -- the one turn that there is builds the text
      obtain ⟨e, he⟩ := nlas_of_not_valid hnil hv
      simp [parseEachEager, he, value_of_not_valid hv, hnil, hv]

@[simp] theorem newChecked_ne_panic : newChecked b ≠ .panic := by
  by_cases h : NlaValid b
  · simp [newChecked_of_valid h]
  · obtain ⟨e, he⟩ := newChecked_of_not_valid h
    simp [he]

/-! ## Parsers of one attribute

The shape that nearly all of them have: the payload, the kind, a table of
arms, and a default that keeps the attribute as it is. -/

section Arms

variable {nb : NlaBuffer} {arms : Bytes → UInt16 → List (UInt16 × Outcome α)}
  {wrap : DefaultNla → α} {text : Bytes → UInt16 → String}

/-- The parser of an attribute whose arms do not panic. -/
theorem NlaValid.parse_ne_panic (hv : NlaValid nb.buffer)
    (harms : ∀ arm ∈ arms (nlaValue nb.buffer) (wireKind nb), arm.2 ≠ .panic) :
    (do
      let payload ← PacketUtils.value nb
      let kind ← PacketUtils.kind nb
      select kind (arms payload kind)
        (wrap <$> (PacketUtils.defaultNla nb).context (text payload kind))) ≠ .panic := by
  rw [hv.carries.bind]
  exact select_ne_panic (fun arm ha _ => harms arm ha) (by simp [hv.carries.defaultNla])

/-- **The parser of an attribute panics when the arm of its kind does**,
where the default does not. -/
theorem NlaValid.parse_eq_panic_iff_of {dflt : Bytes → UInt16 → Outcome α}
    (hv : NlaValid nb.buffer) (hn : ((arms (nlaValue nb.buffer) (wireKind nb)).map Prod.fst).Nodup)
    (hd : dflt (nlaValue nb.buffer) (wireKind nb) ≠ .panic) :
    (do
      let payload ← PacketUtils.value nb
      let kind ← PacketUtils.kind nb
      select kind (arms payload kind) (dflt payload kind)) = .panic ↔
      ∃ arm ∈ arms (nlaValue nb.buffer) (wireKind nb), wireKind nb = arm.1 ∧ arm.2 = .panic := by
  rw [hv.carries.bind]
  exact select_eq_panic_iff hn hd

/-- An attribute that is kept as it is does not panic. -/
theorem NlaValid.parse_eq_panic_iff (hv : NlaValid nb.buffer)
    (hn : ((arms (nlaValue nb.buffer) (wireKind nb)).map Prod.fst).Nodup) :
    (do
      let payload ← PacketUtils.value nb
      let kind ← PacketUtils.kind nb
      select kind (arms payload kind)
        (wrap <$> (PacketUtils.defaultNla nb).context (text payload kind))) = .panic ↔
      ∃ arm ∈ arms (nlaValue nb.buffer) (wireKind nb), wireKind nb = arm.1 ∧ arm.2 = .panic :=
  hv.parse_eq_panic_iff_of hn (by simp [hv.carries.defaultNla])

/-- What each arm comes back with has `P`, and so has what the default
gives where no arm is taken. -/
theorem NlaValid.holds_parse_of {P : α → Prop} {dflt : Bytes → UInt16 → Outcome α}
    (hv : NlaValid nb.buffer)
    (harms : ∀ arm ∈ arms (nlaValue nb.buffer) (wireKind nb), arm.2.Holds P)
    (hd : wireKind nb ∉ (arms (nlaValue nb.buffer) (wireKind nb)).map Prod.fst →
      (dflt (nlaValue nb.buffer) (wireKind nb)).Holds P) :
    (do
      let payload ← PacketUtils.value nb
      let kind ← PacketUtils.kind nb
      select kind (arms payload kind) (dflt payload kind)).Holds P := by
  rw [hv.carries.bind]
  exact holds_select harms hd

/-- What each arm comes back with has `P`, and so has an attribute that no
arm takes. -/
theorem NlaValid.holds_parse {P : α → Prop} (hv : NlaValid nb.buffer)
    (harms : ∀ arm ∈ arms (nlaValue nb.buffer) (wireKind nb), arm.2.Holds P)
    (hd : ∀ d : DefaultNla, d.kind &&& NLA_TYPE_MASK ∉
      (arms (nlaValue nb.buffer) (wireKind nb)).map Prod.fst → P (wrap d)) :
    (do
      let payload ← PacketUtils.value nb
      let kind ← PacketUtils.kind nb
      select kind (arms payload kind)
        (wrap <$> (PacketUtils.defaultNla nb).context (text payload kind))).Holds P := by
  refine hv.holds_parse_of harms fun hk => ?_
  rw [hv.carries.defaultNla]
  exact (Outcome.holds_ok _).2 (hd _ hk)

section Attribute

variable {arms : NlaBuffer → Bytes → UInt16 → List (UInt16 × Outcome α)}
  {dflt : NlaBuffer → Bytes → UInt16 → Outcome α}

/-- **An attribute comes back through the arm of its kind**, which may take
the attribute itself. -/
theorem RoundTrips.of_arm_at {v : Bytes} {arm : NlaBuffer → UInt16 × Outcome α} (h : n.Payload v)
    (k : UInt16) (hk : n.kind = k)
    (hfind : ∀ nb, (arms nb v (k &&& NLA_TYPE_MASK)).find?
      (fun c => decide (k &&& NLA_TYPE_MASK = c.1)) = some (arm nb))
    (harm : ∀ nb, Carries nb k v → (arm nb).2 = .ok a) :
    RoundTrips (fun nb => do
      let payload ← PacketUtils.value nb
      let kind ← PacketUtils.kind nb
      select kind (arms nb payload kind) (dflt nb payload kind)) n a := by
  subst hk
  exact ⟨v, h, fun nb hc => (hc.bind _).trans ((select_of_find (hfind nb)).trans (harm nb hc))⟩

/-- An attribute that no arm takes comes back as the default makes it. -/
theorem RoundTrips.of_default_of {d : DefaultNla}
    (hk : ∀ nb, d.kind &&& NLA_TYPE_MASK ∉
      (arms nb d.value (d.kind &&& NLA_TYPE_MASK)).map Prod.fst)
    (hd : ∀ nb, Carries nb d.kind d.value →
      dflt nb d.value (d.kind &&& NLA_TYPE_MASK) = .ok a) :
    RoundTrips (fun nb => do
      let payload ← PacketUtils.value nb
      let kind ← PacketUtils.kind nb
      select kind (arms nb payload kind) (dflt nb payload kind))
      ⟨d.valueLen, d.kind, d.emitValue⟩ a := by
  refine (writes_copy rfl).roundTrips fun nb hc => (hc.bind _).trans ?_
  rw [select_default (hk nb), hd nb hc]

end Attribute

variable {dflt : NlaBuffer → Bytes → UInt16 → Outcome α}

/-- An attribute comes back where the arm its kind selects reads its
payload. -/
theorem RoundTrips.of_arm {v : Bytes} {arm : UInt16 × Outcome α} (h : n.Payload v) (k : UInt16)
    (hk : n.kind = k)
    (hfind : (arms v (k &&& NLA_TYPE_MASK)).find? (fun c => decide (k &&& NLA_TYPE_MASK = c.1)) =
      some arm) (harm : arm.2 = .ok a) :
    RoundTrips (fun nb => do
      let payload ← PacketUtils.value nb
      let kind ← PacketUtils.kind nb
      select kind (arms payload kind) (dflt nb payload kind)) n a :=
  .of_arm_at h k hk (fun _ => hfind) fun _ _ => harm

/-- The same from what the emitter writes. -/
theorem Emitter.Writes.roundTrips_arm {v : Bytes} {arm : UInt16 × Outcome α}
    (h : Writes n.emitValue n.valueLen v) (k : UInt16) (hk : n.kind = k)
    (hfind : (arms v (k &&& NLA_TYPE_MASK)).find? (fun c => decide (k &&& NLA_TYPE_MASK = c.1)) =
      some arm) (harm : arm.2 = .ok a) :
    RoundTrips (fun nb => do
      let payload ← PacketUtils.value nb
      let kind ← PacketUtils.kind nb
      select kind (arms payload kind) (dflt nb payload kind)) n a :=
  .of_arm h.fills k hk hfind harm

/-- An attribute that no arm takes comes back through the default. -/
theorem RoundTrips.of_default {d : DefaultNla}
    (hk : d.kind &&& NLA_TYPE_MASK ∉
      (arms d.value (d.kind &&& NLA_TYPE_MASK)).map Prod.fst) :
    RoundTrips (fun nb => do
      let payload ← PacketUtils.value nb
      let kind ← PacketUtils.kind nb
      select kind (arms payload kind)
        (wrap <$> (PacketUtils.defaultNla nb).context (text payload kind)))
      ⟨d.valueLen, d.kind, d.emitValue⟩ (wrap d) :=
  .of_default_of (fun _ => hk) fun nb hc => by rw [hc.defaultNla]; rfl

end Arms

/-! ## Loops that skip errors -/

section EachOk

variable {β : Type} {f : NlaBuffer → Outcome (List β)}

/-- `let Ok(nla) = nla else { continue }`: an error gives nothing. -/
def okOnly (f : NlaBuffer → Outcome (List β)) : Outcome NlaBuffer → Outcome (List β)
  | .ok nla => f nla
  | .err _ => .ok []
  | .panic => .panic

/-- A loop over the attributes that skips errors, each turn appending to
what is collected. -/
def eachOk (f : NlaBuffer → Outcome (List β)) (payload : Bytes) : Outcome (List β) :=
  List.flatten <$> forEach (okOnly f) (nlas payload)

/-- The loop never fails when its turns do not. -/
theorem exists_eachOk_eq (h : ∀ nb : NlaBuffer, NlaValid nb.buffer → ∃ l, f nb = .ok l) :
    ∃ l, eachOk f payload = .ok l := by
  have hok : ∃ ls, forEach (okOnly f) (nlas payload) = .ok ls := by
    have hvalid : ∀ nb, .ok nb ∈ nlas payload → NlaValid nb.buffer := fun _ => valid_of_mem_nlas
    have hpanic := panic_not_mem_nlas (b := payload)
    generalize nlas payload = os at hvalid hpanic
    induction os with
    | nil => exact ⟨[], rfl⟩
    | cons o os ih =>
      obtain ⟨ls, hls⟩ := ih (fun nb hnb => hvalid nb (by simp [hnb]))
        fun hp => hpanic (by simp [hp])
      cases o with
      | ok nb =>
        obtain ⟨l, hl⟩ := h nb (hvalid nb (by simp))
        exact ⟨l :: ls, by simp only [forEach_cons, okOnly, hl, hls, Outcome.ok_bind]⟩
      | err e => exact ⟨[] :: ls, by simp only [forEach_cons, okOnly, hls, Outcome.ok_bind]⟩
      | panic => simp at hpanic
  obtain ⟨ls, hls⟩ := hok
  exact ⟨ls.flatten, by rw [eachOk, hls]; rfl⟩

end EachOk

/-! ## Structures -/

variable {σ : Type} {s : StructCodec σ} {name ctx : String} {x : σ}

@[simp] theorem parseChecked_ne_panic : s.parseChecked name ctx payload ≠ .panic := by
  intro h
  rcases (Outcome.bind_eq_panic _ _).1 h with h | ⟨buf, hb, h⟩
  · simp at h
  · rw [Outcome.context_eq_ok, checkedBuffer_eq_ok_iff] at hb
    rw [Outcome.context_eq_panic] at h
    exact s.parse_ne_panic (hb.2 ▸ hb.1) h

@[simp] theorem parseChecked_bytes : s.parseChecked name ctx (s.bytes x) = .ok x := by
  simp [StructCodec.parseChecked, checkedBuffer_of_le]

end NetlinkRoute
