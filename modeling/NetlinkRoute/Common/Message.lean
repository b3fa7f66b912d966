import NetlinkRoute.Common.Nlas
/-!
# Messages — a header and a list of attributes

A message starts with a fixed header whose setters may leave gaps, and
goes on with attributes whose decoding can depend on the header.
`HeaderCodec` is such a header, and `MessageFormat` the rest of what a
message type fixes. What every message type shares is proved here once:
a message comes back from its bytes when its attributes do
(`decode_emitted`), what was decoded is written back to the same message
(`decode_stable_of`), decoding panics as the attributes do
(`decode_eq_panic_iff`), and the bytes that are left alone are those of
the header's gaps and of the attributes (`uniform_emit_iff`,
`not_uniform_emit`).
-/

namespace NetlinkRoute

open PacketUtils Emitter

/-! ## Setters with gaps -/

/-- The fields stand in order, from `pos` on, and end before `lim`. -/
def Ascending : ℕ → ℕ → List (ℕ × Bytes) → Prop
  | pos, lim, [] => pos ≤ lim
  | pos, lim, f :: fs => pos ≤ f.1 ∧ Ascending (f.1 + f.2.length) lim fs

/-- The fields' bytes, from `pos` to `lim`, with zeros between them. -/
def gapped : ℕ → ℕ → List (ℕ × Bytes) → Bytes
  | pos, lim, [] => zeros (lim - pos)
  | pos, lim, f :: fs => zeros (f.1 - pos) ++ (f.2 ++ gapped (f.1 + f.2.length) lim fs)

section Gaps

variable {fs : List (ℕ × Bytes)} {pos lim m : ℕ}

theorem Ascending.le (h : Ascending pos lim fs) : pos ≤ lim := by
  induction fs generalizing pos with
  | nil => exact h
  | cons f fs ih =>
    have := ih h.2
    have := h.1
    omega

/-- Ascending fields stay so under a higher limit. -/
theorem Ascending.mono (h : Ascending pos lim fs) : Ascending pos (lim + m) fs := by
  induction fs generalizing pos with
  | nil => exact Nat.le_trans h (Nat.le_add_right _ _)
  | cons f fs ih => exact ⟨h.1, ih h.2⟩

theorem zeros_add (a b : ℕ) : zeros (a + b) = zeros a ++ zeros b :=
  List.replicate_add a b 0

/-- The bytes laid out between two positions are as many as lie between
them. -/
theorem length_gapped (h : Ascending pos lim fs) : (gapped pos lim fs).length = lim - pos := by
  induction fs generalizing pos with
  | nil => simp [gapped]
  | cons f fs ih =>
    have h1 := h.1
    have h2 := h.2.le
    simp only [gapped, List.length_append, length_zeros, ih h.2]
    omega

/-- A higher limit adds zeros at the end. -/
theorem gapped_add (h : Ascending pos lim fs) :
    gapped pos (lim + m) fs = gapped pos lim fs ++ zeros m := by
  induction fs generalizing pos with
  | nil =>
    have h : pos ≤ lim := h
    rw [gapped, gapped, ← zeros_add, Nat.sub_add_comm h]
  | cons f fs ih => simp only [gapped, ih h.2, List.append_assoc]

/-- Setters on a zeroed slice. -/
theorem run_fields_zeros {pre : Bytes} (hpre : pre.length = pos) (h : Ascending pos lim fs) :
    (fields fs).run (pre ++ zeros (lim - pos)) = .ok (pre ++ gapped pos lim fs) := by
  induction fs generalizing pos pre with
  | nil => rfl
  | cons f fs ih =>
    have h1 := h.1
    have h2 := h.2.le
    -- one setter: the gap in front of it stays zero, and so does all behind it
    have hput : (put f.1 f.2).run (pre ++ zeros (lim - pos)) =
        .ok (pre ++ zeros (f.1 - pos) ++ f.2 ++ zeros (lim - (f.1 + f.2.length))) := by
      rw [put_run (by simp only [List.length_append, length_zeros]; omega), List.take_append,
        List.drop_append, List.take_of_length_le (by omega), List.drop_eq_nil_of_le (by omega),
        take_zeros, drop_zeros, List.nil_append, hpre,
        Nat.min_eq_left (show f.1 - pos ≤ lim - pos by omega),
        show lim - pos - (f.1 + f.2.length - pos) = lim - (f.1 + f.2.length) by omega]
    have hlen : (pre ++ zeros (f.1 - pos) ++ f.2).length = f.1 + f.2.length := by
      simp only [List.length_append, length_zeros]
      omega
    have hrest := ih hlen h.2
    show (put f.1 f.2).run _ >>= (fields fs).run = _
    rw [hput, Outcome.ok_bind, hrest, gapped]
    simp only [List.append_assoc]

end Gaps

/-! ## Headers -/

/-- A message header: its getters, its setters, and the values that its
getters give. -/
structure HeaderCodec (η : Type) where
  /-- Its size. -/
  len : ℕ
  /-- The getters of all fields. -/
  parse : Bytes → Outcome η
  /-- The setters: places and bytes. -/
  layout : η → List (ℕ × Bytes)
  /-- The values that come back. -/
  WellFormed : η → Prop
  ascending : ∀ h, Ascending 0 len (layout h)
  parse_layout : ∀ h rest, WellFormed h → parse (gapped 0 len (layout h) ++ rest) = .ok h
  parse_of_le : ∀ b : Bytes, len ≤ b.length → ∃ h, parse b = .ok h ∧ WellFormed h

namespace HeaderCodec

variable {η : Type} (c : HeaderCodec η) {h : η} {i m : ℕ}

/-- All setters. -/
def emit (h : η) : Emitter := fields (c.layout h)

/-- The header in a zeroed buffer. -/
def bytes (h : η) : Bytes := gapped 0 c.len (c.layout h)

@[simp] theorem length_bytes : (c.bytes h).length = c.len := length_gapped (c.ascending h)

/-- Into zeros, the header is emitted as its bytes. -/
theorem run_zeros : (c.emit h).run (zeros (c.len + m)) = .ok (c.bytes h ++ zeros m) := by
  have hrun := run_fields_zeros List.length_nil ((c.ascending h).mono (m := m))
  rwa [gapped_add (c.ascending h)] at hrun

/-- In a zeroed buffer the header fills its length with its bytes. -/
theorem fills_emit : Fills (c.emit h) c.len (c.bytes h) := by
  have hrun := c.run_zeros (h := h) (m := 0)
  rwa [zeros_zero, List.append_nil, Nat.add_zero] at hrun

/-- A well-formed header is read back from its bytes. -/
theorem parse_bytes (hw : c.WellFormed h) : c.parse (c.bytes h) = .ok h := by
  simpa [bytes] using c.parse_layout h [] hw

/-- A structure that panics on what is short panics on nothing else. -/
theorem parse_eq_panic_iff_of_short {b : Bytes} (hs : b.length < c.len → c.parse b = .panic) :
    c.parse b = .panic ↔ b.length < c.len := by
  refine ⟨fun hp => ?_, hs⟩
  by_contra hlen
  obtain ⟨v, hv, -⟩ := c.parse_of_le b (Nat.not_lt.1 hlen)
  rw [hv] at hp
  cases hp

/-- A header without gaps. -/
theorem covers (ht : Tiles 0 (c.layout h)) : Covers (c.emit h) (layoutBytes (c.layout h)) :=
  covers_fields ht

/-- A byte that no field covers keeps what the buffer held. -/
theorem keeps (hgap : ∀ f ∈ c.layout h, i < f.1 ∨ f.1 + f.2.length ≤ i) : Keeps (c.emit h) i :=
  keeps_fields hgap

end HeaderCodec

/-! ## Formats -/

/-- A header and its attributes. -/
structure Message (η α : Type) where
  header : η
  attributes : List α
deriving DecidableEq

/-- What a message type fixes: the name of its buffer, its header, its
attributes, and the contexts its errors get. -/
structure MessageFormat (η α : Type) where
  buffer : String
  header : HeaderCodec η
  nla : α → Nla
  parseAttributes : η → Bytes → Outcome (List α)
  headerErr : Option String
  attributesErr : Option String

/-- `.context(msg)`, where there is one. -/
def Outcome.contextIf {α : Type} (o : Outcome α) : Option String → Outcome α
  | none => o
  | some msg => o.context msg

@[simp] theorem Outcome.contextIf_eq_ok {α : Type} {o : Outcome α} {msg : Option String} {a : α} :
    o.contextIf msg = .ok a ↔ o = .ok a := by
  cases msg <;> simp [contextIf]

@[simp] theorem Outcome.contextIf_eq_panic {α : Type} {o : Outcome α} {msg : Option String} :
    o.contextIf msg = .panic ↔ o = .panic := by
  cases msg <;> simp [contextIf]

@[simp] theorem Outcome.contextIf_ok {α : Type} {msg : Option String} {a : α} :
    (Outcome.ok a).contextIf msg = .ok a := by
  cases msg <;> rfl

variable [PacketUtils]

/-- `for nla_buf in buf.attributes() { out.push(parse(&nla_buf?)?) }`. -/
def parseEach {α : Type} (parse : NlaBuffer → Outcome α) (payload : Bytes) : Outcome (List α) :=
  forEach (fun nla => do parse (← nla)) (nlas payload)

section Each

variable {α : Type} {parse : NlaBuffer → Outcome α} {t : α → Nla} {payload : Bytes} {as : List α}

/-- Attributes that come back one by one come back as a list. -/
theorem parseEach_emitted (hrt : ∀ a ∈ as, RoundTrips parse (t a) a)
    (hlen : ∀ a ∈ as, (t a).valueLen ≤ 65531) :
    ∃ out, Fills (emitNlas (as.map t)) (nlasLen (as.map t)) out ∧ parseEach parse out = .ok as :=
  forEach_nlas_emitted (g := fun nla => do parse (← nla)) hrt hlen

theorem ReadsAs.parseEach_eq (h : ReadsAs parse payload as) : parseEach parse payload = .ok as :=
  h.forEach_eq fun _ _ hp => hp

/-- What holds of each parsed attribute holds of all in the list. -/
theorem holds_parseEach {P : α → Prop} (h : ∀ nb, .ok nb ∈ nlas payload → (parse nb).Holds P) :
    (parseEach parse payload).Holds fun as => ∀ a ∈ as, P a :=
  holds_forEach_nlas (by simpa using h) (by simp)

/-- Each attribute of the list was parsed from one in the payload. -/
theorem exists_of_mem_parseEach (h : parseEach parse payload = .ok as) {a : α} (ha : a ∈ as) :
    ∃ nb, .ok nb ∈ nlas payload ∧ parse nb = .ok a :=
  holds_parseEach (P := fun a => ∃ nb, .ok nb ∈ nlas payload ∧ parse nb = .ok a)
    (fun nb hnb _ hp => ⟨nb, hnb, hp⟩) as h a ha

/-- Parsers that agree on the attributes of the payload agree on the
payload. -/
theorem parseEach_congr {parse' : NlaBuffer → Outcome α}
    (h : ∀ nb, .ok nb ∈ nlas payload → parse nb = parse' nb) :
    parseEach parse payload = parseEach parse' payload := by
  refine forEach_congr fun o ho => ?_
  cases o with
  | ok nb => exact h nb ho
  | err e => rfl
  | panic => rfl

/-- The loop panics exactly where it reaches an attribute whose parser does.
-/
theorem parseEach_eq_panic_iff : parseEach parse payload = .panic ↔
    ∃ nb, NlaReached parse payload nb ∧ parse nb = .panic :=
  forEach_bind_eq_panic_iff

/-- A parser without a panic makes a loop without one. -/
theorem parseEach_ne_panic (h : ∀ nb : NlaBuffer, NlaValid nb.buffer → parse nb ≠ .panic) :
    parseEach parse payload ≠ .panic := by
  rw [Ne, parseEach_eq_panic_iff]
  rintro ⟨nb, hr, hp⟩
  exact h nb (valid_of_mem_nlas hr.mem) hp

end Each

namespace MessageFormat

variable {η α : Type} (F : MessageFormat η α) {m : Message η α} {b : Bytes}

def bufferLen (m : Message η α) : ℕ := F.header.len + nlasLen (m.attributes.map F.nla)

def emit (m : Message η α) : Emitter :=
  (F.header.emit m.header).andThen (onTail F.header.len (emitNlas (m.attributes.map F.nla)))

def parse (buf : Bytes) : Outcome (Message η α) := do
  let header ← (F.header.parse buf).contextIf F.headerErr
  let payload ← sliceFrom buf F.header.len
  let attributes ← (F.parseAttributes header payload).contextIf F.attributesErr
  .ok ⟨header, attributes⟩

/-- The checked buffer, then the parser. -/
def decode (b : Bytes) : Outcome (Message η α) := do
  F.parse (← checkedBuffer F.buffer F.header.len b)

/-- Every attribute fits its length field. -/
def Sized (m : Message η α) : Prop := ∀ a ∈ m.attributes, (F.nla a).valueLen ≤ 65531

/-- And is written. -/
theorem Sized.frames {F : MessageFormat η α} (hs : F.Sized m) :
    ∀ a ∈ m.attributes, Frames (F.nla a).valueLen :=
  fun a ha => frames_of_le (hs a ha)

/-- A buffer that holds a header is decoded by it. -/
theorem decode_of_le (hle : F.header.len ≤ b.length) : ∃ header, F.header.parse b = .ok header ∧
    F.header.WellFormed header ∧ F.decode b = (do
      let attributes ← (F.parseAttributes header (b.drop F.header.len)).contextIf F.attributesErr
      .ok ⟨header, attributes⟩) := by
  obtain ⟨header, hh, hw⟩ := F.header.parse_of_le b hle
  refine ⟨header, hh, hw, ?_⟩
  rw [decode, checkedBuffer_of_le hle, Outcome.ok_bind, parse, hh, Outcome.contextIf_ok,
    Outcome.ok_bind, sliceFrom_ok hle, Outcome.ok_bind]

/-- A message shorter than its header is refused. -/
theorem decode_of_lt (hlt : b.length < F.header.len) : ∃ e, F.decode b = .err e := by
  obtain ⟨e, he⟩ := checkedBuffer_of_lt (s := F.buffer) hlt
  exact ⟨e, by rw [decode, he]; rfl⟩

/-- How a message was decoded. -/
theorem decode_eq_ok (h : F.decode b = .ok m) : F.header.len ≤ b.length ∧
    F.header.parse b = .ok m.header ∧ F.header.WellFormed m.header ∧
      F.parseAttributes m.header (b.drop F.header.len) = .ok m.attributes := by
  rcases Nat.lt_or_ge b.length F.header.len with hlt | hle
  · obtain ⟨e, he⟩ := F.decode_of_lt hlt
    rw [he] at h
    cases h
  · obtain ⟨header, hh, hw, heq⟩ := F.decode_of_le hle
    rw [heq, Outcome.bind_eq_ok] at h
    obtain ⟨attributes, ha, h⟩ := h
    cases h
    exact ⟨hle, hh, hw, Outcome.contextIf_eq_ok.1 ha⟩

/-- Decoders agree that read the attributes of this buffer alike. -/
theorem decode_congr {parseAttributes : η → Bytes → Outcome (List α)}
    (h : ∀ header, F.parseAttributes header (b.drop F.header.len) =
      parseAttributes header (b.drop F.header.len)) :
    F.decode b = { F with parseAttributes := parseAttributes }.decode b := by
  rcases Nat.lt_or_ge b.length F.header.len with hlt | hle
  · obtain ⟨e, he⟩ := checkedBuffer_of_lt (s := F.buffer) hlt
    simp only [decode, he, Outcome.err_bind]
  · simp only [decode, checkedBuffer_of_le hle, Outcome.ok_bind, parse, sliceFrom_ok hle, h]

/-- **Decoding panics when the loop over the attributes does.** -/
theorem decode_eq_panic_iff : F.decode b = .panic ↔ ∃ header, F.header.len ≤ b.length ∧
    F.header.parse b = .ok header ∧
      F.parseAttributes header (b.drop F.header.len) = .panic := by
  rcases Nat.lt_or_ge b.length F.header.len with hlt | hle
  · obtain ⟨e, he⟩ := F.decode_of_lt hlt
    refine iff_of_false (by simp [he]) ?_
    rintro ⟨-, hle, -⟩
    omega
  · obtain ⟨header, hh, -, heq⟩ := F.decode_of_le hle
    rw [heq, Outcome.bind_eq_panic, Outcome.contextIf_eq_panic]
    simp [hh, hle]

/-- The checked header leaves only the attributes to panic. -/
theorem decode_ne_panic (h : ∀ header payload, F.parseAttributes header payload ≠ .panic) :
    F.decode b ≠ .panic := by
  rw [Ne, decode_eq_panic_iff]
  rintro ⟨header, -, -, hp⟩
  exact h _ _ hp

/-- A message is the bytes of its header and those of its attributes. -/
theorem fills_emit {out : Bytes}
    (hout : Fills (emitNlas (m.attributes.map F.nla)) (nlasLen (m.attributes.map F.nla)) out) :
    Fills (F.emit m) (F.bufferLen m) (F.header.bytes m.header ++ out) := by
  have hlen := F.header.length_bytes (h := m.header)
  rw [Fills, bufferLen, emit, andThen_run, F.header.run_zeros, Outcome.ok_bind,
    onTail_run (by rw [List.length_append, hlen]; exact Nat.le_add_right _ _),
    List.drop_left' hlen, List.take_left' hlen, hout]
  rfl

/-- It is read from the bytes of its header, and from those behind them. -/
theorem decode_bytes_append {header : η} {rest : Bytes} {as : List α}
    (hw : F.header.WellFormed header) (hread : F.parseAttributes header rest = .ok as) :
    F.decode (F.header.bytes header ++ rest) = .ok ⟨header, as⟩ := by
  have hlen := F.header.length_bytes (h := header)
  have hle : F.header.len ≤ (F.header.bytes header ++ rest).length := by
    rw [List.length_append, hlen]
    exact Nat.le_add_right _ _
  have hheader : F.header.parse (F.header.bytes header ++ rest) = .ok header :=
    F.header.parse_layout _ _ hw
  rw [decode, checkedBuffer_of_le hle, Outcome.ok_bind, parse, hheader, Outcome.contextIf_ok,
    Outcome.ok_bind, sliceFrom_ok hle, List.drop_left' hlen, Outcome.ok_bind, hread,
    Outcome.contextIf_ok]
  rfl

/-- A message is read from its bytes with its header, and with what its
attributes are read as. -/
theorem decode_emitted_as {as : List α} (hw : F.header.WellFormed m.header)
    (ha : ∃ out, Fills (emitNlas (m.attributes.map F.nla)) (nlasLen (m.attributes.map F.nla)) out ∧
      F.parseAttributes m.header out = .ok as) :
    ∃ out, Fills (F.emit m) (F.bufferLen m) out ∧ F.decode out = .ok ⟨m.header, as⟩ := by
  obtain ⟨out, hout, hread⟩ := ha
  exact ⟨_, F.fills_emit hout, F.decode_bytes_append hw hread⟩

/-- **A message comes back from its bytes when its attributes do.** -/
theorem decode_emitted (hw : F.header.WellFormed m.header)
    (ha : ∃ out, Fills (emitNlas (m.attributes.map F.nla)) (nlasLen (m.attributes.map F.nla)) out ∧
      F.parseAttributes m.header out = .ok m.attributes) :
    ∃ out, Fills (F.emit m) (F.bufferLen m) out ∧ F.decode out = .ok m :=
  F.decode_emitted_as hw ha

/-- A header without gaps leaves the bytes to the attributes. -/
theorem uniform_emit_iff (ht : Tiles 0 (F.header.layout m.header))
    (hlen : (layoutBytes (F.header.layout m.header)).length = F.header.len)
    (hs : ∀ a ∈ m.attributes, Frames (F.nla a).valueLen) :
    Uniform (F.emit m) (F.bufferLen m) ↔
      ∀ a ∈ m.attributes, Uniform (F.nla a).emitValue (F.nla a).valueLen := by
  have hcover := (F.header.covers ht).uniform_andThen_onTail (n := F.bufferLen m)
    (e := emitNlas (m.attributes.map F.nla)) (by rw [hlen]; rfl)
  rw [hlen] at hcover
  rw [emit, hcover, uniform_emitNlas_iff (List.forall_mem_map.2 hs), List.forall_mem_map]

/-- A byte in a gap of the header stays what it was. -/
theorem not_uniform_emit {i : ℕ} (hi : i < F.header.len)
    (hgap : ∀ f ∈ F.header.layout m.header, i < f.1 ∨ f.1 + f.2.length ≤ i) :
    ¬ Uniform (F.emit m) (F.bufferLen m) :=
  not_uniform_of_keeps ((F.header.keeps hgap).andThen (keeps_onTail hi))
    (Nat.lt_of_lt_of_le hi (Nat.le_add_right _ _))

/-! ## Attributes that are decoded one by one -/

section Each

variable {parseAttribute : η → NlaBuffer → Outcome α}
  (hF : F.parseAttributes = fun header => parseEach (parseAttribute header))

include hF

/-- Each attribute of the message was parsed under its header. -/
theorem exists_of_mem_decode (h : F.decode b = .ok m) {a : α} (ha : a ∈ m.attributes) :
    ∃ nb, NlaValid nb.buffer ∧ parseAttribute m.header nb = .ok a := by
  obtain ⟨-, -, -, hp⟩ := F.decode_eq_ok h
  rw [hF] at hp
  obtain ⟨nb, hnb, hpa⟩ := exists_of_mem_parseEach hp ha
  exact ⟨nb, valid_of_mem_nlas hnb, hpa⟩

/-- **Round trip, attribute by attribute.** A message whose attributes come
back comes back. -/
theorem decode_emitted_of (hw : F.header.WellFormed m.header) (hs : F.Sized m)
    (ha : ∀ a ∈ m.attributes, RoundTrips (parseAttribute m.header) (F.nla a) a) :
    ∃ out, Fills (F.emit m) (F.bufferLen m) out ∧ F.decode out = .ok m := by
  refine F.decode_emitted hw ?_
  rw [hF]
  exact parseEach_emitted ha hs

/-- **What was decoded is written back to the same message**, when each
attribute that the parser gives comes back. -/
theorem decode_stable_of
    (hrt : ∀ header (nb : NlaBuffer) a, NlaValid nb.buffer → parseAttribute header nb = .ok a →
      (F.nla a).valueLen ≤ 65531 → RoundTrips (parseAttribute header) (F.nla a) a)
    (h : F.decode b = .ok m) (hs : F.Sized m) :
    ∃ out, Fills (F.emit m) (F.bufferLen m) out ∧ F.decode out = .ok m := by
  obtain ⟨-, -, hw, -⟩ := F.decode_eq_ok h
  refine F.decode_emitted_of hF hw hs fun a ha => ?_
  obtain ⟨nb, hv, hp⟩ := F.exists_of_mem_decode hF h ha
  exact hrt _ nb a hv hp (hs a ha)

/-- A parser of attributes without a panic makes a decoder without one. -/
theorem decode_ne_panic_of
    (h : ∀ header (nb : NlaBuffer), NlaValid nb.buffer → parseAttribute header nb ≠ .panic) :
    F.decode b ≠ .panic := by
  refine F.decode_ne_panic fun header payload => ?_
  rw [hF]
  exact parseEach_ne_panic (h header)

/-- Decoding panics when it gets to an attribute with the defect that its
parser panics on. -/
theorem decode_eq_panic_iff_of {D : NlaBuffer → Prop} {parse : NlaBuffer → Outcome α}
    (hp : parseAttribute = fun _ => parse)
    (hD : ∀ nb : NlaBuffer, NlaValid nb.buffer → (parse nb = .panic ↔ D nb)) :
    F.decode b = .panic ↔ ∃ nb, NlaReached parse (b.drop F.header.len) nb ∧ D nb := by
  subst hp
  have hloop : ∀ header, F.parseAttributes header (b.drop F.header.len) = .panic ↔
      ∃ nb, NlaReached parse (b.drop F.header.len) nb ∧ D nb := by
    intro header
    rw [hF, parseEach_eq_panic_iff]
    exact exists_congr fun nb => and_congr_right fun hr => hD nb (valid_of_mem_nlas hr.mem)
  rw [decode_eq_panic_iff]
  constructor
  · rintro ⟨header, -, -, h⟩
    exact (hloop header).1 h
  · intro h
    obtain ⟨nb, hr, -⟩ := id h
    have hle : F.header.len ≤ b.length := le_length_of_mem_nlas_drop hr.mem
    obtain ⟨header, hh, -⟩ := F.header.parse_of_le b hle
    exact ⟨header, hle, hh, (hloop header).2 h⟩

end Each

end MessageFormat

end NetlinkRoute
