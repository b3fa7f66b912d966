import NetlinkRoute.Common.Message
import NetlinkRoute.Family
/-!
# The multicast database of a bridge

Messages keep the database as raw bytes, and `MdbMessage.entries` decodes
them on demand: groups, ports of a group, and a fixed structure with
further attributes for each. The model of both, that neither panics
(`decode_ne_panic`, `exists_entries`), and that what was decoded is
written back to the same message (`decode_stable`).
-/

namespace NetlinkRoute

open PacketUtils Emitter

/-! ## Messages -/

/-- `MdbHeader`. -/
structure MdbHeader where
  family : AddressFamily
  index : UInt32
deriving DecidableEq

/-- `MdbMessageBuffer`, and what the message writes into it: the padding
is zeroed. -/
def MdbHeader.codec [Host] : HeaderCodec MdbHeader where
  len := 8
  parse buf := do
    return { family := AddressFamily.codec.ofNum (← getU8 buf 0), index := ← getU32 buf 4 }
  layout h := [(0, [AddressFamily.codec.toNum h.family]), (1, zeros 3), (4, ne.u32 h.index)]
  WellFormed h := AddressFamily.codec.Canonical h.family
  ascending h := by simp [Ascending]
  parse_layout h rest hw := by simp [gapped, zeros, List.replicate, hw.ofNum_toNum]
  parse_of_le b hb := by
    simp (disch := exact fits_of_le hb rfl) only [getU8_of_le, getU32_of_le, Outcome.ok_bind,
      Outcome.pure_eq]
    exact ⟨_, rfl, by simp⟩

abbrev MDBA_MDB : UInt16 := 1
abbrev MDBA_MROUTE : UInt16 := 2
abbrev MDBA_MDB_EATTR : UInt16 := 3

/-- The attributes of a multicast database message. -/
inductive MdbAttribute where
  | mdbEntry (v : Bytes)
  | mrouteEntry (v : Bytes)
  | mdbExtAttrs (v : Bytes)
  | other (v : DefaultNla)
deriving DecidableEq

section

variable [PacketUtils]

namespace MdbAttribute

def kind : MdbAttribute → UInt16
  | .mdbEntry _ => MDBA_MDB
  | .mrouteEntry _ => MDBA_MROUTE
  | .mdbExtAttrs _ => MDBA_MDB_EATTR
  | .other attr => attr.kind

def valueLen : MdbAttribute → ℕ
  | .mdbEntry v | .mrouteEntry v | .mdbExtAttrs v => v.length
  | .other attr => attr.valueLen

def emitValue : MdbAttribute → Emitter
  | .mdbEntry v | .mrouteEntry v | .mdbExtAttrs v => .copy v
  | .other attr => attr.emitValue

/-- The attribute, as the attribute layer sees it. -/
def nla (a : MdbAttribute) : Nla := ⟨a.valueLen, a.kind, a.emitValue⟩

/-- An unknown attribute is kept without the flags of its kind. -/
def parseWithParam (buf : NlaBuffer) : Outcome MdbAttribute := do
  let payload ← value buf
  let kind ← PacketUtils.kind buf
  select kind [
    (MDBA_MDB, .ok (.mdbEntry payload)),
    (MDBA_MROUTE, .ok (.mrouteEntry payload)),
    (MDBA_MDB_EATTR, .ok (.mdbExtAttrs payload))]
    (.ok (.other ⟨kind, payload⟩))

end MdbAttribute

/-- `MdbMessage`. -/
abbrev MdbMessage := Message MdbHeader MdbAttribute

/-- How a multicast database message is decoded and written. -/
def MdbMessage.format : MessageFormat MdbHeader MdbAttribute where
  buffer := "MdbMessageBuffer"
  header := MdbHeader.codec
  nla := MdbAttribute.nla
  parseAttributes _ := parseEach MdbAttribute.parseWithParam
  headerErr := none
  attributesErr := none

/-! ## Entries -/

abbrev MDBA_MDB_ENTRY : UInt16 := 1
abbrev MDBA_MDB_ENTRY_INFO : UInt16 := 1
abbrev MDBA_MDB_EATTR_SOURCE : UInt16 := 4
abbrev MDBA_MDB_EATTR_DST : UInt16 := 6
abbrev MDBA_MDB_EATTR_VNI : UInt16 := 8
abbrev MDBA_MDB_EATTR_SRC_VNI : UInt16 := 10
abbrev ETH_P_IP : UInt16 := 0x0800
abbrev ETH_P_IPV6 : UInt16 := 0x86DD
abbrev BR_MDB_ENTRY_LEN : ℕ := 28

/-- The group of an entry. -/
inductive MdbGroup where
  | v4 (v : Ipv4Addr)
  | v6 (v : Ipv6Addr)
  | mac (v : Octets 6)
deriving DecidableEq

/-- One decoded entry. -/
structure MdbEntry where
  portIfindex : UInt32
  state : UInt8
  flags : UInt8
  vid : UInt16
  group : MdbGroup
  source : Option IpAddr
  dst : Option IpAddr
  vni : Option UInt32
deriving DecidableEq

/-- What the attributes behind the fixed structure say. -/
structure MdbEattrs where
  source : Option IpAddr
  dst : Option IpAddr
  vni : Option UInt32
deriving DecidableEq

/-- `ip_from_nla`. -/
def ipFromNla (value : Bytes) : Option IpAddr :=
  if value.length = 4 then some (.v4 (Octets.ofBytes 4 value))
  else if value.length = 16 then some (.v6 (Octets.ofBytes 16 value))
  else none

/-- One turn of the loop over those attributes. -/
def parseEattr (eattrs : MdbEattrs) (eattr : NlaBuffer) : Outcome MdbEattrs := do
  let kind ← PacketUtils.kind eattr
  select kind [
    (MDBA_MDB_EATTR_SOURCE, do .ok { eattrs with source := ipFromNla (← value eattr) }),
    (MDBA_MDB_EATTR_DST, do .ok { eattrs with dst := ipFromNla (← value eattr) }),
    (MDBA_MDB_EATTR_VNI, do .ok (withVni eattrs (← value eattr))),
    (MDBA_MDB_EATTR_SRC_VNI, do .ok (withVni eattrs (← value eattr)))]
    (.ok eattrs)
where
  /-- Four bytes are a network identifier, anything else changes nothing. -/
  withVni (eattrs : MdbEattrs) (value : Bytes) : MdbEattrs :=
    if value.length = 4 then { eattrs with vni := some (ne.toU32 value) } else eattrs

/-- The loop over those attributes, which skips errors. -/
def parseEattrs : List (Outcome NlaBuffer) → MdbEattrs → Outcome MdbEattrs
  | [], eattrs => .ok eattrs
  | .ok eattr :: rest, eattrs => do parseEattrs rest (← parseEattr eattrs eattr)
  | .err _ :: rest, eattrs => parseEattrs rest eattrs
  | .panic :: _, _ => .panic

/-- `parse_entry_info`: the fixed structure and the attributes behind
it. -/
def parseEntryInfo (value : Bytes) : Outcome (Option MdbEntry) :=
  if value.length < BR_MDB_ENTRY_LEN then .ok none
  else do
    let portIfindex := ne.toU32 (← slice value 0 4)
    let state ← index value 4
    let flags ← index value 5
    let vid := ne.toU16 (← slice value 6 8)
    let proto := be.toU16 (← slice value 24 26)
    let group ←
      if proto = ETH_P_IP then (.v4 ∘ Octets.ofBytes 4) <$> slice value 8 12
      else if proto = ETH_P_IPV6 then (.v6 ∘ Octets.ofBytes 16) <$> slice value 8 24
      else (.mac ∘ Octets.ofBytes 6) <$> slice value 8 14
    let eattrs ← parseEattrs (nlas (← sliceFrom value BR_MDB_ENTRY_LEN)) ⟨none, none, none⟩
    .ok (some ⟨portIfindex, state, flags, vid, group, eattrs.source, eattrs.dst, eattrs.vni⟩)

/-- The ports of one group. -/
def parseEntry (entry : NlaBuffer) : Outcome (List MdbEntry) := do
  if (← kind entry) ≠ MDBA_MDB_ENTRY then .ok []
  else eachOk (fun info => do
    if (← kind info) ≠ MDBA_MDB_ENTRY_INFO then .ok []
    else Option.toList <$> parseEntryInfo (← value info)) (← value entry)

/-- `parse_mdb_entries`. -/
def parseMdbEntries (raw : Bytes) : Outcome (List MdbEntry) := eachOk parseEntry raw

/-- The entries of one attribute: only `MDBA_MDB` has any. -/
def MdbAttribute.entries : MdbAttribute → Outcome (List MdbEntry)
  | .mdbEntry raw => parseMdbEntries raw
  | _ => .ok []

/-- `MdbMessage::entries`. -/
def MdbMessage.entries (m : MdbMessage) : Outcome (List MdbEntry) :=
  List.flatten <$> forEach MdbAttribute.entries m.attributes

/-! ## Messages, written and read back -/

namespace MdbAttribute

variable {a : MdbAttribute} {nb : NlaBuffer}

/-- The kinds its parser names. -/
def kinds : List UInt16 := [MDBA_MDB, MDBA_MROUTE, MDBA_MDB_EATTR]

/-- The values that come back from their own bytes: an unknown kind has
no flags. -/
def WellFormed : MdbAttribute → Prop
  | .other n => n.Unknown kinds ∧ n.kind &&& NLA_TYPE_MASK = n.kind
  | _ => True

omit [PacketUtils] in
/-- An attribute of the database is written alike into all buffers. -/
theorem uniform_emitValue (a : MdbAttribute) : Uniform a.emitValue a.valueLen := by
  cases a <;> simp [emitValue, valueLen]

/-- A well-formed attribute of the database comes back. -/
theorem roundTrips (h : a.WellFormed) : RoundTrips parseWithParam a.nla a := by
  cases a with
  | other n =>
    refine (writes_copy rfl).roundTrips fun nb hc => ?_
    have hk : n.kind &&& NLA_TYPE_MASK = n.kind := h.2
    simp only [nla, kind] at hc
    rw [parseWithParam, hc.bind, select_default (by exact h.1), hk]
  | _ v =>
    refine (writes_copy rfl).roundTrips fun nb hc => ?_
    simp only [nla, kind] at hc
    rw [parseWithParam, hc.bind, select_of_find rfl]

/-- The parser gives well-formed attributes only. -/
theorem holds_parseWithParam (hv : NlaValid nb.buffer) :
    (parseWithParam nb).Holds WellFormed := by
  rw [parseWithParam, hv.carries.bind]
  refine holds_select ?_ fun hk => ?_
  · simp [WellFormed]
  · have hmask : nlaWord nb.buffer &&& NLA_TYPE_MASK &&& NLA_TYPE_MASK =
        nlaWord nb.buffer &&& NLA_TYPE_MASK := by
      rw [UInt16.and_assoc, UInt16.and_self]
    refine (Outcome.holds_ok _).2 ⟨?_, hmask⟩
    rw [DefaultNla.Unknown, hmask]
    exact hk

/-- It does not panic. -/
theorem parseWithParam_ne_panic (hv : NlaValid nb.buffer) : parseWithParam nb ≠ .panic := by
  rw [parseWithParam, hv.carries.bind]
  exact select_ne_panic (by simp) (by simp)

end MdbAttribute

namespace MdbMessage

variable {m : MdbMessage} {b : Bytes}

/-- Neither does the decoder. -/
theorem decode_ne_panic : format.decode b ≠ .panic :=
  format.decode_ne_panic_of rfl fun _ _ hv => MdbAttribute.parseWithParam_ne_panic hv

/-- **What was decoded is written back to the same message.** -/
theorem decode_stable (h : format.decode b = .ok m) (hs : format.Sized m) :
    ∃ out, Fills (format.emit m) (format.bufferLen m) out ∧ format.decode out = .ok m :=
  format.decode_stable_of rfl (fun _ _ a hv hp _ =>
    MdbAttribute.roundTrips (MdbAttribute.holds_parseWithParam hv a hp)) h hs

/-- **Every byte of a message is written**, when its attributes are. -/
theorem uniform_emit (hs : ∀ a ∈ m.attributes, Frames a.valueLen) :
    Uniform (format.emit m) (format.bufferLen m) := by
  rw [format.uniform_emit_iff (by simp [format, MdbHeader.codec, Tiles])
    (by simp [format, MdbHeader.codec]) hs]
  exact fun a _ => a.uniform_emitValue

end MdbMessage

/-! ## Entries are always decoded -/

/-- A nested attribute of an entry is taken or skipped, never refused. -/
theorem exists_parseEattr {eattrs : MdbEattrs} {nb : NlaBuffer} (hv : NlaValid nb.buffer) :
    ∃ r, parseEattr eattrs nb = .ok r := by
  rw [parseEattr, hv.carries.kind, Outcome.ok_bind, hv.carries.value]
  exact select_ind (P := fun o : Outcome MdbEattrs => ∃ r, o = .ok r) (by simp) fun _ => ⟨_, rfl⟩

/-- So the list of them is read to its end. -/
theorem exists_parseEattrs {os : List (Outcome NlaBuffer)} {eattrs : MdbEattrs}
    (hvalid : ∀ nb, .ok nb ∈ os → NlaValid nb.buffer) (hpanic : .panic ∉ os) :
    ∃ r, parseEattrs os eattrs = .ok r := by
  induction os generalizing eattrs with
  | nil => exact ⟨_, rfl⟩
  | cons o os ih =>
    have hvalid' : ∀ nb, .ok nb ∈ os → NlaValid nb.buffer := fun nb hnb => hvalid nb (by simp [hnb])
    have hpanic' : .panic ∉ os := fun hp => hpanic (by simp [hp])
    cases o with
    | ok nb =>
      obtain ⟨r, hr⟩ := @exists_parseEattr _ eattrs nb (hvalid nb (by simp))
      rw [parseEattrs, hr, Outcome.ok_bind]
      exact ih hvalid' hpanic'
    | err e => exact ih hvalid' hpanic'
    | panic => simp at hpanic

/-- An entry info gives an entry or none. -/
theorem exists_parseEntryInfo (v : Bytes) : ∃ r, parseEntryInfo v = .ok r := by
  unfold parseEntryInfo
  split
  · exact ⟨_, rfl⟩
  · next h =>
    have h28 : 28 ≤ v.length := Nat.le_of_not_lt h
    obtain ⟨eattrs, he⟩ := @exists_parseEattrs _ (nlas (v.drop BR_MDB_ENTRY_LEN))
      ⟨none, none, none⟩ (fun _ => valid_of_mem_nlas) panic_not_mem_nlas
    have hs : ∀ lo hi, lo ≤ hi → hi ≤ 28 → slice v lo hi = .ok ((v.drop lo).take (hi - lo)) :=
      fun lo hi hlo hhi => slice_ok hlo (by omega)
    rw [hs 0 4 (by omega) (by omega), hs 6 8 (by omega) (by omega), hs 24 26 (by omega) (by omega),
      hs 8 12 (by omega) (by omega), hs 8 24 (by omega) (by omega), hs 8 14 (by omega) (by omega),
      index_of_lt (by omega), index_of_lt (by omega), sliceFrom_ok h28]
    simp only [Outcome.ok_bind, he]
    split_ifs <;> exact ⟨_, rfl⟩

/-- A group gives the entries of its infos. -/
theorem exists_parseEntry {nb : NlaBuffer} (hv : NlaValid nb.buffer) :
    ∃ l, parseEntry nb = .ok l := by
  rw [parseEntry, hv.carries.kind, Outcome.ok_bind]
  split
  · exact ⟨_, rfl⟩
  · rw [hv.carries.value, Outcome.ok_bind]
    refine exists_eachOk_eq fun info hi => ?_
    rw [hi.carries.kind, Outcome.ok_bind]
    split
    · exact ⟨_, rfl⟩
    · obtain ⟨r, hr⟩ := exists_parseEntryInfo (nlaValue info.buffer)
      rw [hi.carries.value, Outcome.ok_bind, hr]
      exact ⟨_, rfl⟩

/-- The entries of an attribute can always be listed. -/
theorem MdbAttribute.exists_entries (a : MdbAttribute) : ∃ l, a.entries = .ok l := by
  cases a with
  | mdbEntry raw => exact exists_eachOk_eq fun _ => exists_parseEntry
  | _ => exact ⟨_, rfl⟩

/-- **Decoding the entries of a message never fails**, whatever bytes its
attributes hold. -/
theorem MdbMessage.exists_entries (m : MdbMessage) : ∃ l, m.entries = .ok l := by
  choose f hf using MdbAttribute.exists_entries
  have hall := forEach_eq_ok_iff.2 (List.forall₂_map_right_iff.2
    (List.forall₂_same.2 fun a (_ : a ∈ m.attributes) => hf a))
  exact ⟨_, by rw [MdbMessage.entries, hall]; rfl⟩

end

end NetlinkRoute
