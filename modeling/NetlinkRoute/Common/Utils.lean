import NetlinkRoute.Common.Emitter
/-!
# Packet utilities — the attribute layer the program is written against

Netlink attributes are length-type-value records: a length word that
counts its own header, a kind word whose two top bits are flags, the
payload, and padding to four bytes. The program does not walk or write
them itself, it calls a support library for that. `PacketUtils` is what
it relies on: the operations it calls, each with the behaviour it is
documented to have and nothing about the texts of its errors. All that
follows holds over any implementation; `reference` is one.
-/

namespace NetlinkRoute

open Emitter

/-! ## The wire format -/

/-- The flag that marks a nested attribute. -/
def NLA_F_NESTED : UInt16 := 0x8000

/-- The flag that marks a payload in network order. -/
def NLA_F_NET_BYTEORDER : UInt16 := 0x4000

/-- The bits of the kind word that are not flags. -/
def NLA_TYPE_MASK : UInt16 := 0x3fff

/-- Attributes start at multiples of four. -/
def nlaAlign (n : ℕ) : ℕ := (n + 3) / 4 * 4

section Wire

variable [Host]

/-- The length word of the attribute a slice starts with. -/
def nlaLength (b : Bytes) : ℕ := (ne.toU16 (b.take 2)).toNat

/-- Its kind word, flags included. -/
def nlaWord (b : Bytes) : UInt16 := ne.toU16 ((b.drop 2).take 2)

/-- Its payload. -/
def nlaValue (b : Bytes) : Bytes := (b.take (nlaLength b)).drop 4

/-- The slice starts with an attribute: the length word counts the header
and does not run past the slice. -/
def NlaValid (b : Bytes) : Prop := 4 ≤ nlaLength b ∧ nlaLength b ≤ b.length

instance (b : Bytes) : Decidable (NlaValid b) := inferInstanceAs (Decidable (_ ∧ _))

end Wire

/-! ## Values that cross the interface -/

/-- A slice seen as an attribute. Built by the unchecked constructor it
can be any slice. -/
structure NlaBuffer where
  buffer : Bytes
deriving DecidableEq, Repr

/-- An attribute kept as its kind word and its payload. -/
structure DefaultNla where
  kind : UInt16
  value : Bytes
deriving DecidableEq, Repr

/-- The size of its payload. -/
def DefaultNla.valueLen (n : DefaultNla) : ℕ := n.value.length

/-- Its payload is copied. -/
def DefaultNla.emitValue (n : DefaultNla) : Emitter := .copy n.value

/-- What an attribute type tells the library about a value of it: the
size of the payload, the kind word, and the code that writes the payload
into a slice of that size. -/
structure Nla where
  valueLen : ℕ
  kind : UInt16
  emitValue : Emitter

/-- The space an attribute takes, padding included. -/
def Nla.bufferLen (n : Nla) : ℕ := nlaAlign n.valueLen + 4

/-- The space a list of attributes takes. -/
def nlasLen (ns : List Nla) : ℕ := (ns.map Nla.bufferLen).sum

/-- An IP address. -/
inductive IpAddr where
  | v4 (a : Octets 4)
  | v6 (a : Octets 16)
deriving DecidableEq, Repr

/-- The bytes of a string. -/
def utf8 (s : String) : Bytes := s.toByteArray.data.toList

/-- The string with these bytes, when there is one. -/
def ofUtf8? (b : Bytes) : Option String :=
  if h : (ByteArray.mk b.toArray).IsValidUTF8 then some ⟨_, h⟩ else none

/-- A string is found exactly when these are its bytes. -/
theorem ofUtf8?_eq_some {b : Bytes} {s : String} : ofUtf8? b = some s ↔ utf8 s = b := by
  unfold ofUtf8? utf8
  constructor
  · intro h
    split at h
    · cases h
      simp
    · cases h
  · rintro rfl
    have hv : (ByteArray.mk s.toByteArray.data.toList.toArray) = s.toByteArray := by simp
    rw [dif_pos (by rw [hv]; exact s.isValidUTF8)]

/-- A string and the terminator behind it. -/
def emitStringNul (s : String) : Emitter := block [put 0 (utf8 s), put (utf8 s).length [0]]

/-- A string takes a byte more than it has. -/
theorem writes_emitStringNul {s : String} :
    Writes (emitStringNul s) ((utf8 s).length + 1) (utf8 s ++ [0]) := by
  have hc : Covers (fields [(0, utf8 s), ((utf8 s).length, [0])]) (utf8 s ++ [0]) := by
    simpa using @covers_fields [(0, utf8 s), ((utf8 s).length, [0])] (by simp [Tiles])
  have hw := hc.writes
  rwa [List.length_append] at hw

/-- One terminator, if there is one, is not part of the string. -/
def stripNul (b : Bytes) : Bytes := if b.getLast? = some 0 then b.dropLast else b

/-- A parser of payloads of one length: it decodes those and rejects all
others. -/
structure FixedWidth {α : Type} (parse : Bytes → Outcome α) (w : ℕ) (dec : Bytes → α) : Prop where
  ok : ∀ b : Bytes, b.length = w → parse b = .ok (dec b)
  err : ∀ b : Bytes, b.length ≠ w → ∃ e, parse b = .err e

/-! ## The interface -/

/-- What the program relies on. -/
class PacketUtils extends Host where
  /-- `NlaBuffer::kind`: the kind word without its flags. -/
  kind : NlaBuffer → Outcome UInt16
  kind_of_le : ∀ {b : Bytes}, 4 ≤ b.length → kind ⟨b⟩ = .ok (nlaWord b &&& NLA_TYPE_MASK)
  kind_of_lt : ∀ {b : Bytes}, b.length < 4 → kind ⟨b⟩ = .panic
  /-- `NlaBuffer::value`: the payload, and a panic where the length word
  counts less than a header or more than the slice. -/
  value : NlaBuffer → Outcome Bytes
  value_of_valid : ∀ {b : Bytes}, NlaValid b → value ⟨b⟩ = .ok (nlaValue b)
  value_of_not_valid : ∀ {b : Bytes}, ¬ NlaValid b → value ⟨b⟩ = .panic
  /-- `NlaBuffer::new_checked`. -/
  newChecked : Bytes → Outcome NlaBuffer
  newChecked_of_valid : ∀ {b : Bytes}, NlaValid b → newChecked b = .ok ⟨b⟩
  newChecked_of_not_valid : ∀ {b : Bytes}, ¬ NlaValid b → ∃ e, newChecked b = .err e
  /-- All that `NlasIterator::new(buf)` yields: the attributes in turn, and
  one error at the first that is not valid. -/
  nlas : Bytes → List (Outcome NlaBuffer)
  nlas_nil : nlas [] = []
  nlas_of_valid : ∀ {b : Bytes}, NlaValid b →
    nlas b = .ok ⟨b⟩ :: nlas (b.drop (nlaAlign (nlaLength b)))
  nlas_of_not_valid : ∀ {b : Bytes}, b ≠ [] → ¬ NlaValid b → ∃ e, nlas b = [.err e]
  /-- `DefaultNla::parse`: flags are kept. -/
  defaultNla : NlaBuffer → Outcome DefaultNla
  defaultNla_of_valid : ∀ {b : Bytes}, NlaValid b → defaultNla ⟨b⟩ = .ok ⟨nlaWord b, nlaValue b⟩
  /-- The four bytes written before a payload of the given length. -/
  header : ℕ → UInt16 → Bytes
  length_header : ∀ l k, (header l k).length = 4
  /-- The kind word is written as the attribute gives it. That is assumed of
  words with both flags too, which a library that sets the flags one by one
  may not keep. -/
  header_eq : ∀ {l k}, l ≤ 65531 → header l k = ne.u16 (UInt16.ofNat (l + 4)) ++ ne.u16 k
  /-- The sizes of a payload that attributes are written with. They are those
  that the length word can count; of a larger payload nothing is said, and
  the emitter may panic. -/
  Frames : ℕ → Prop
  frames_of_le : ∀ {l}, l ≤ 65531 → Frames l
  frames_mono : ∀ {l k}, l ≤ k → Frames k → Frames l
  /-- `Emitable::emit` of an attribute: header, payload, zeroed padding. -/
  emitNla : Nla → Emitter
  emitNla_run : ∀ {n : Nla} {b : Bytes}, Frames n.valueLen → b.length = n.bufferLen →
    (emitNla n).run b = (fun v => header n.valueLen n.kind ++ v ++
      zeros (nlaAlign n.valueLen - n.valueLen)) <$> n.emitValue.run ((b.drop 4).take n.valueLen)
  /-- `Emitable::emit` of a slice of attributes: each in its own part of
  the buffer, one after another. -/
  emitNlas : List Nla → Emitter
  emitNlas_run : ∀ {ns : List Nla} {b : Bytes}, nlasLen ns ≤ b.length →
    (emitNlas ns).run b = (inTurn (ns.map fun n => (n.bufferLen, emitNla n))).run b
  /-- `new_checked` of a struct buffer of the given name and size. -/
  checkedBuffer : String → ℕ → Bytes → Outcome Bytes
  checkedBuffer_of_le : ∀ {s n} {b : Bytes}, n ≤ b.length → checkedBuffer s n b = .ok b
  checkedBuffer_of_lt : ∀ {s n} {b : Bytes}, b.length < n → ∃ e, checkedBuffer s n b = .err e
  parseU8 : Bytes → Outcome UInt8
  parseU8_spec : FixedWidth parseU8 1 (·.headD 0)
  parseU16 : Bytes → Outcome UInt16
  parseU16_spec : FixedWidth parseU16 2 ne.toU16
  parseU32 : Bytes → Outcome UInt32
  parseU32_spec : FixedWidth parseU32 4 ne.toU32
  parseU64 : Bytes → Outcome UInt64
  parseU64_spec : FixedWidth parseU64 8 ne.toU64
  parseI32 : Bytes → Outcome Int32
  parseI32_spec : FixedWidth parseI32 4 ne.toI32
  parseU16Be : Bytes → Outcome UInt16
  parseU16Be_spec : FixedWidth parseU16Be 2 be.toU16
  parseU32Be : Bytes → Outcome UInt32
  parseU32Be_spec : FixedWidth parseU32Be 4 be.toU32
  parseMac : Bytes → Outcome (Octets 6)
  parseMac_spec : FixedWidth parseMac 6 (Octets.ofBytes 6)
  /-- `parse_ip`: four bytes or sixteen. -/
  parseIp : Bytes → Outcome IpAddr
  parseIp_four : ∀ {b : Bytes}, b.length = 4 → parseIp b = .ok (.v4 (Octets.ofBytes 4 b))
  parseIp_sixteen : ∀ {b : Bytes}, b.length = 16 → parseIp b = .ok (.v6 (Octets.ofBytes 16 b))
  parseIp_other : ∀ {b : Bytes}, b.length ≠ 4 → b.length ≠ 16 → ∃ e, parseIp b = .err e
  /-- `parse_string`: the terminator, if there is one, is dropped. -/
  parseString : Bytes → Outcome String
  parseString_some : ∀ {b : Bytes} {s : String}, ofUtf8? (stripNul b) = some s →
    parseString b = .ok s
  parseString_none : ∀ {b : Bytes}, ofUtf8? (stripNul b) = none → ∃ e, parseString b = .err e

/-- The same, with an emitter that writes header and padding around payloads
of any size. -/
class FramesAll extends PacketUtils where
  frames : ∀ l, Frames l

end NetlinkRoute
