import NetlinkRoute.Common.Carried
import NetlinkRoute.Common.Reference
import NetlinkRoute.Family
/-!
# The network identifiers a tunnel filters by

Each identifier is one attribute with another inside it, written byte by
byte. The decoder keeps what it finds of that form and skips the rest,
errors included: it never fails once there is a header
(`exists_decode`), and what it decoded is written back to the same
message (`decode_stable`).
-/

namespace NetlinkRoute

open PacketUtils Emitter

/-! ## The model -/

/-- `TunnelHeader`. -/
structure TunnelHeader where
  family : AddressFamily
  flags : UInt8
  index : UInt32
deriving DecidableEq

/-- `TunnelMessageBuffer`. The reserved field has no setter call. -/
def TunnelHeader.codec [Host] : HeaderCodec TunnelHeader where
  len := 8
  parse buf := do
    return {
      family := AddressFamily.codec.ofNum (← getU8 buf 0)
      flags := ← getU8 buf 1
      index := ← getU32 buf 4 }
  layout h := [(0, [AddressFamily.codec.toNum h.family]), (1, [h.flags]), (4, ne.u32 h.index)]
  WellFormed h := AddressFamily.codec.Canonical h.family
  ascending h := by simp [Ascending]
  parse_layout h rest hw := by simp [gapped, zeros, List.replicate, hw.ofNum_toNum]
  parse_of_le b hb := by
    simp (disch := exact fits_of_le hb rfl) only [getU8_of_le, getU32_of_le, Outcome.ok_bind,
      Outcome.pure_eq]
    exact ⟨_, rfl, by simp⟩

abbrev VXLAN_VNIFILTER_ENTRY : UInt16 := 1
abbrev VXLAN_VNIFILTER_ENTRY_START : UInt16 := 1
abbrev ENTRY_LEN : ℕ := 12

/-- `TunnelMessage`. -/
structure TunnelMessage where
  header : TunnelHeader
  vnis : List UInt32
deriving DecidableEq

namespace TunnelMessage

variable [PacketUtils]

/-- An attribute inside an entry: the identifier is kept when it has four
bytes. -/
def parseInner (inner : NlaBuffer) : Outcome (List UInt32) := do
  if (← kind inner) = VXLAN_VNIFILTER_ENTRY_START then
    let v ← value inner
    if v.length = 4 then .ok [ne.toU32 v] else .ok []
  else .ok []

/-- An attribute of the message. -/
def parseEntry (nla : NlaBuffer) : Outcome (List UInt32) := do
  if (← kind nla) &&& ~~~NLA_F_NESTED ≠ VXLAN_VNIFILTER_ENTRY then .ok []
  else eachOk parseInner (← value nla)

def parse (buf : Bytes) : Outcome TunnelMessage := do
  let header ← TunnelHeader.codec.parse buf
  let vnis ← eachOk parseEntry (← sliceFrom buf 8)
  .ok ⟨header, vnis⟩

/-- `TunnelMessageBuffer::new_checked`, then `TunnelMessage::parse`. -/
def decode (b : Bytes) : Outcome TunnelMessage := do
  parse (← checkedBuffer "TunnelMessageBuffer" TunnelHeader.codec.len b)

def bufferLen (m : TunnelMessage) : ℕ := 8 + m.vnis.length * ENTRY_LEN

/-- One entry, in its twelve bytes. -/
def entryLayout (vni : UInt32) : List (ℕ × Bytes) := [
  (0, ne.u16 (UInt16.ofNat ENTRY_LEN)), (2, ne.u16 (VXLAN_VNIFILTER_ENTRY ||| NLA_F_NESTED)),
  (4, ne.u16 8), (6, ne.u16 VXLAN_VNIFILTER_ENTRY_START), (8, ne.u32 vni)]

def emit (m : TunnelMessage) : Emitter :=
  (onSlice 0 8 (TunnelHeader.codec.emit m.header)).andThen
    (onTail 8 (inTurn (m.vnis.map fun vni => (ENTRY_LEN, fields (entryLayout vni)))))

/-! ## Written and read back -/

variable {m : TunnelMessage} {b : Bytes} {nb : NlaBuffer}

/-- Inside an entry stands one attribute. -/
abbrev innerNla (vni : UInt32) : Bytes := encodeNla VXLAN_VNIFILTER_ENTRY_START (ne.u32 vni)

/-- An entry's bytes are those of an attribute with another inside it. -/
theorem layoutBytes_entryLayout (vni : UInt32) : layoutBytes (entryLayout vni) =
    encodeNla (VXLAN_VNIFILTER_ENTRY ||| NLA_F_NESTED) (innerNla vni) := by
  have hinner : innerNla vni = ne.u16 8 ++ ne.u16 VXLAN_VNIFILTER_ENTRY_START ++ ne.u32 vni := by
    unfold innerNla encodeNla
    rw [length_u32, header_eq (by omega), show nlaAlign 4 - 4 = 0 from rfl, zeros_zero,
      List.append_nil]
    rfl
  have hlen : (innerNla vni).length = 8 := by rw [length_encodeNla, length_u32]; rfl
  rw [encodeNla, hlen, header_eq (by omega), show nlaAlign 8 - 8 = 0 from rfl, zeros_zero,
    List.append_nil, hinner]
  simp [entryLayout, ENTRY_LEN]

/-- An entry is written as the bytes of its identifier. -/
theorem writes_entry (vni : UInt32) :
    Writes (fields (entryLayout vni)) ENTRY_LEN (layoutBytes (entryLayout vni)) := by
  have hw := (@covers_fields (entryLayout vni) (by simp [entryLayout, Tiles])).writes
  rwa [show (List.flatMap Prod.snd (entryLayout vni)).length = ENTRY_LEN by simp [entryLayout]]
    at hw

/-- The attribute of an entry. -/
def entryNla (vni : UInt32) : UInt16 × Bytes :=
  (VXLAN_VNIFILTER_ENTRY ||| NLA_F_NESTED, innerNla vni)

/-- Entries are short enough for their length words. -/
theorem consistent_entryNla (vnis : List UInt32) : Consistent (vnis.map entryNla) := by
  refine List.forall_mem_map.2 fun vni _ => ?_
  have hlen : (innerNla vni).length = 8 := by rw [length_encodeNla, length_u32]; rfl
  rw [entryNla, hlen]
  omega

/-- A message is its header and its entries, and nothing else. -/
theorem fills_emit : Fills m.emit m.bufferLen
    (TunnelHeader.codec.bytes m.header ++ encodeNlas (m.vnis.map entryNla)) := by
  have hh : (TunnelHeader.codec.bytes m.header).length = 8 := TunnelHeader.codec.length_bytes
  -- the header is written into its own bytes, before any entry
  have hhead : (TunnelHeader.codec.emit m.header).run (zeros 8) =
      .ok (TunnelHeader.codec.bytes m.header) := by
    have hrun := TunnelHeader.codec.run_zeros (h := m.header) (m := 0)
    rwa [zeros_zero, List.append_nil] at hrun
  have hbody := (writes_inTurn_map (l := m.vnis) fun vni _ => writes_entry vni).fills
  have hsum : (m.vnis.map fun _ => ENTRY_LEN).sum = m.vnis.length * ENTRY_LEN := by simp
  have hbytes : m.vnis.flatMap (fun vni => layoutBytes (entryLayout vni)) =
      encodeNlas (m.vnis.map entryNla) := by
    simp only [layoutBytes_entryLayout, encodeNlas, List.flatMap_map, entryNla]
  rw [hsum, hbytes] at hbody
  have htake : (zeros (8 + m.vnis.length * ENTRY_LEN)).take 8 = zeros 8 := by
    rw [take_zeros, Nat.min_eq_left (Nat.le_add_right _ _)]
  rw [Fills, bufferLen, emit, andThen_run, onSlice_run (by omega) (by simp), List.drop_zero,
    Nat.sub_zero, htake, hhead, Outcome.map_ok, Outcome.ok_bind, List.take_zero,
    List.nil_append, drop_zeros, Nat.add_sub_cancel_left,
    onTail_run (by rw [List.length_append, hh]; omega), List.drop_left' hh, List.take_left' hh,
    hbody]
  rfl

/-! ## What is found in any bytes -/

/-- The identifier that an attribute inside an entry holds. -/
def startOf (a : UInt16 × Bytes) : Option UInt32 :=
  if kindOf a = VXLAN_VNIFILTER_ENTRY_START ∧ a.2.length = 4 then some (ne.toU32 a.2) else none

/-- The identifiers in a list of attributes: those of its entries, of each
up to the first malformed attribute inside. -/
def starts (l : List (UInt16 × Bytes)) : List UInt32 :=
  (l.filter fun a => kindOf a = VXLAN_VNIFILTER_ENTRY).flatMap fun a =>
    (carried a.2).filterMap startOf

variable {word : UInt16} {v : Bytes} {l : List (UInt16 × Bytes)}

/-- The starts of a list are those of its entries, in order. -/
theorem starts_eq_flatMap : starts l = l.flatMap fun a =>
    if kindOf a = VXLAN_VNIFILTER_ENTRY then (carried a.2).filterMap startOf else [] := by
  unfold starts
  induction l with
  | nil => rfl
  | cons a l ih =>
    rw [List.flatMap_cons, ← ih]
    by_cases hk : kindOf a = VXLAN_VNIFILTER_ENTRY
    · rw [List.filter_cons_of_pos (by simpa using hk), List.flatMap_cons, if_pos hk]
    · rw [List.filter_cons_of_neg (by simpa using hk), if_neg hk, List.nil_append]

/-- A nested attribute gives its start, if it has one. -/
theorem parseInner_of_carries (hc : Carries nb word v) :
    parseInner nb = .ok (startOf (word, v)).toList := by
  rw [parseInner, hc.kind, Outcome.ok_bind, hc.value, startOf]
  by_cases hk : word &&& NLA_TYPE_MASK = VXLAN_VNIFILTER_ENTRY_START
  · by_cases hlen : v.length = 4
    · rw [if_pos hk, Outcome.ok_bind, if_pos hlen, if_pos ⟨hk, hlen⟩]
      rfl
    · rw [if_pos hk, Outcome.ok_bind, if_neg hlen, if_neg fun h => hlen h.2]
      rfl
  · rw [if_neg hk, if_neg fun h => hk h.1]
    rfl

/-- An entry gives the starts nested in it, and any other attribute none. -/
theorem parseEntry_of_carries (hc : Carries nb word v) : parseEntry nb = .ok
    (if word &&& NLA_TYPE_MASK = VXLAN_VNIFILTER_ENTRY then (carried v).filterMap startOf
      else []) := by
  -- the kind has no flags left that could be taken away
  have hmask : word &&& NLA_TYPE_MASK &&& ~~~NLA_F_NESTED = word &&& NLA_TYPE_MASK := by
    rw [UInt16.and_assoc]
    rfl
  have hinner : eachOk parseInner v = .ok ((carried v).filterMap startOf) := by
    rw [List.filterMap_eq_flatMap_toList]
    exact eachOk_eq_flatMap fun _ _ _ => parseInner_of_carries
  rw [parseEntry, hc.kind, Outcome.ok_bind, hmask, hc.value, Outcome.ok_bind, hinner]
  by_cases hk : word &&& NLA_TYPE_MASK = VXLAN_VNIFILTER_ENTRY
  · rw [if_neg (not_not.2 hk), if_pos hk]
  · rw [if_pos hk, if_neg hk]

/-- **What is behind a header is decoded**, whatever it is. -/
theorem decode_of_le (hle : 8 ≤ b.length) : ∃ header, TunnelHeader.codec.parse b = .ok header ∧
    AddressFamily.codec.Canonical header.family ∧
      decode b = .ok ⟨header, starts (carried (b.drop 8))⟩ := by
  obtain ⟨header, hh, hw⟩ := TunnelHeader.codec.parse_of_le b hle
  have hloop : eachOk parseEntry (b.drop 8) = .ok (starts (carried (b.drop 8))) := by
    rw [starts_eq_flatMap]
    exact eachOk_eq_flatMap fun _ _ _ => parseEntry_of_carries
  refine ⟨header, hh, hw, ?_⟩
  rw [decode, checkedBuffer_of_le (n := TunnelHeader.codec.len) hle, Outcome.ok_bind, parse, hh,
    Outcome.ok_bind, sliceFrom_ok hle, Outcome.ok_bind, hloop]
  rfl

/-- **A buffer that holds a header is decoded**, to a message with a
canonical family. -/
theorem exists_decode (hle : 8 ≤ b.length) :
    ∃ m, decode b = .ok m ∧ AddressFamily.codec.Canonical m.header.family := by
  obtain ⟨header, -, hw, h⟩ := decode_of_le hle
  exact ⟨_, h, hw⟩

/-- The decoder does not panic. -/
theorem decode_ne_panic : decode b ≠ .panic := by
  rcases Nat.lt_or_ge b.length TunnelHeader.codec.len with hlt | hle
  · obtain ⟨e, he⟩ := checkedBuffer_of_lt (s := "TunnelMessageBuffer") hlt
    simp [decode, he]
  · obtain ⟨m, hm, -⟩ := exists_decode hle
    simp [hm]

/-! ## Written and read back -/

/-- The entries of a message give back its identifiers. -/
theorem starts_entryNla (vnis : List UInt32) : starts (vnis.map entryNla) = vnis := by
  have hinner : ∀ vni, (carried (innerNla vni)).filterMap startOf = [vni] := by
    intro vni
    have hcarried : carried (innerNla vni ++ []) = [(VXLAN_VNIFILTER_ENTRY_START, ne.u32 vni)] := by
      rw [innerNla, carried_encodeNla (by rw [length_u32]; omega), carried_nil]
    have hk : kindOf (VXLAN_VNIFILTER_ENTRY_START, ne.u32 vni) = VXLAN_VNIFILTER_ENTRY_START := by
      show VXLAN_VNIFILTER_ENTRY_START &&& NLA_TYPE_MASK = VXLAN_VNIFILTER_ENTRY_START
      decide
    have hstart : startOf (VXLAN_VNIFILTER_ENTRY_START, ne.u32 vni) = some vni := by
      rw [startOf, if_pos ⟨hk, length_u32 _ _⟩, toU32_u32]
    rw [List.append_nil] at hcarried
    rw [hcarried, List.filterMap_cons_some hstart, List.filterMap_nil]
  have hentry : ∀ vni, (if kindOf (entryNla vni) = VXLAN_VNIFILTER_ENTRY then
      (carried (entryNla vni).2).filterMap startOf else []) = [vni] := by
    intro vni
    have hk : kindOf (entryNla vni) = VXLAN_VNIFILTER_ENTRY := by
      show (VXLAN_VNIFILTER_ENTRY ||| NLA_F_NESTED) &&& NLA_TYPE_MASK = VXLAN_VNIFILTER_ENTRY
      decide
    rw [if_pos hk]
    exact hinner vni
  rw [starts_eq_flatMap, List.flatMap_map]
  simp only [hentry]
  exact List.flatMap_singleton' vnis

/-- A message with a canonical family comes back from its own bytes. -/
theorem decode_emitted (hw : AddressFamily.codec.Canonical m.header.family) :
    ∃ out, Fills m.emit m.bufferLen out ∧ decode out = .ok m := by
  have hh : (TunnelHeader.codec.bytes m.header).length = 8 := TunnelHeader.codec.length_bytes
  refine ⟨_, fills_emit, ?_⟩
  obtain ⟨header, hheader, -, h⟩ := @decode_of_le _
    (TunnelHeader.codec.bytes m.header ++ encodeNlas (m.vnis.map entryNla)) (by
      rw [List.length_append, hh]
      exact Nat.le_add_right _ _)
  have hsame : TunnelHeader.codec.parse (TunnelHeader.codec.bytes m.header ++
      encodeNlas (m.vnis.map entryNla)) = .ok m.header := TunnelHeader.codec.parse_layout _ _ hw
  obtain rfl := Outcome.ok.inj (hsame.symm.trans hheader)
  rw [h, List.drop_left' hh, carried_encodeNlas (consistent_entryNla _), starts_entryNla]

/-- **What was decoded is written back to the same message.** -/
theorem decode_stable (h : decode b = .ok m) :
    ∃ out, Fills m.emit m.bufferLen out ∧ decode out = .ok m := by
  refine decode_emitted ?_
  rcases Nat.lt_or_ge b.length TunnelHeader.codec.len with hlt | hle
  · obtain ⟨e, he⟩ := checkedBuffer_of_lt (s := "TunnelMessageBuffer") hlt
    simp [decode, he] at h
  · obtain ⟨m', hm', hw⟩ := exists_decode hle
    rw [h] at hm'
    cases hm'
    exact hw

/-- The reserved bytes of the header stay what they were. -/
theorem not_uniform_emit : ¬ Uniform m.emit m.bufferLen := by
  have hheader : Keeps (TunnelHeader.codec.emit m.header) 2 :=
    TunnelHeader.codec.keeps (by simp [TunnelHeader.codec])
  have hemit : Keeps m.emit 2 := (hheader.onSlice_zero (by omega)).andThen (keeps_onTail (by omega))
  exact not_uniform_of_keeps hemit (by rw [bufferLen]; omega)

/-- **Identifiers come back**: those of a message from its own bytes, which
are its header and its entries and nothing else, and from any bytes behind a
header those of its entries, in order. -/
theorem decode_vnis (hw : AddressFamily.codec.Canonical m.header.family) (hle : 8 ≤ b.length) :
    (∃ out, Fills m.emit m.bufferLen out ∧ decode out = .ok m ∧
      out.length = 8 + 12 * m.vnis.length ∧ encodeNlas (carried (out.drop 8)) = out.drop 8) ∧
    ∃ header, decode b = .ok ⟨header, starts (carried (b.drop 8))⟩ := by
  constructor
  · obtain ⟨out, hout, hm⟩ := decode_emitted hw
    have hh : (TunnelHeader.codec.bytes m.header).length = 8 := TunnelHeader.codec.length_bytes
    obtain rfl := Outcome.ok.inj (fills_emit.symm.trans hout)
    refine ⟨_, hout, hm, ?_, ?_⟩
    · rw [hout.length_eq, bufferLen, ENTRY_LEN, Nat.mul_comm]
    · rw [List.drop_left' hh, carried_encodeNlas (consistent_entryNla _)]
  · obtain ⟨header, -, -, h⟩ := decode_of_le hle
    exact ⟨header, h⟩

end TunnelMessage

/-! ## On a little-endian host -/

section

attribute [local instance] Reference.little

/-- Two identifiers come back, and one is found between other attributes. -/
theorem TunnelMessage.decode_vnis_bridge :
    (∃ out, Fills (emit ⟨⟨.bridge, 0, 2⟩, [10, 10]⟩) (bufferLen ⟨⟨.bridge, 0, 2⟩, [10, 10]⟩) out ∧
      decode out = .ok ⟨⟨.bridge, 0, 2⟩, [10, 10]⟩) ∧
    ∃ header, decode (zeros 8 ++
      encodeNlas [(2, []), (1, encodeNlas [(1, [0]), (1, [10, 0, 0, 0])])]) =
        .ok ⟨header, [10]⟩ := by
  have h := decode_vnis (m := ⟨⟨.bridge, 0, 2⟩, [10, 10]⟩)
    (b := zeros 8 ++ encodeNlas [(2, []), (1, encodeNlas [(1, [0]), (1, [10, 0, 0, 0])])])
    (by decide) (by decide)
  obtain ⟨⟨out, hout, hm, -⟩, header, hb⟩ := h
  exact ⟨⟨out, hout, hm⟩, header, hb⟩

end

end NetlinkRoute
