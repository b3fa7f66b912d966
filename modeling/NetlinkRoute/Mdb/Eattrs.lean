import NetlinkRoute.Common.Carried
import NetlinkRoute.Common.Reference
import NetlinkRoute.Mdb
/-!
# The attributes of a multicast database entry

Behind the fixed structure of an entry stand attributes, of which four
kinds matter. The loop over them overwrites three fields as it goes; what
it comes back with is said here without a loop: the last attribute of a
kind decides (`MdbEattrs.ofList`, `parseEntryInfo_of_le`). From that it
follows which attributes can be put in and which can change places.
-/

namespace NetlinkRoute

open PacketUtils Emitter

/-! ## The fixed structure -/

/-- `struct br_mdb_entry`, its padding included. -/
structure BrMdbEntry where
  ifindex : UInt32
  state : UInt8
  flags : UInt8
  vid : UInt16
  addr : Octets 16
  proto : UInt16
  pad : Octets 2
deriving DecidableEq

namespace BrMdbEntry

/-- Its layout: all in the order of the host, but for the protocol. -/
def codec [Host] : StructCodec BrMdbEntry where
  len := BR_MDB_ENTRY_LEN
  parse buf := do
    return {
      ifindex := ← getU32 buf 0
      state := ← getU8 buf 4
      flags := ← getU8 buf 5
      vid := ← getU16 buf 6
      addr := ← getOctets buf 8 16
      proto := ← getU16Be buf 24
      pad := ← getOctets buf 26 2 }
  layout e := [(0, ne.u32 e.ifindex), (4, [e.state]), (5, [e.flags]), (6, ne.u16 e.vid),
    (8, e.addr.val), (24, be.u16 e.proto), (26, e.pad.val)]
  tiles e := by simp [Tiles, e.addr.property]
  length_layout e := by simp [e.addr.property, e.pad.property]
  parse_layout e rest := by
    simp [getU8_append, getU16_append, getOctets_append, getU16Be_append, e.addr.property]
  parse_of_le b hb := by
    simp (disch := exact fits_of_le hb rfl) only [getU8_of_le, getU16_of_le, getU32_of_le,
      getOctets_of_le, getU16Be_of_le, Outcome.ok_bind, Outcome.pure_eq]
    exact ⟨_, rfl⟩

/-- The group: its form is what the protocol says. -/
def group (e : BrMdbEntry) : MdbGroup :=
  if e.proto = ETH_P_IP then .v4 (Octets.ofBytes 4 (e.addr.val.take 4))
  else if e.proto = ETH_P_IPV6 then .v6 e.addr
  else .mac (Octets.ofBytes 6 (e.addr.val.take 6))

end BrMdbEntry

section

variable [PacketUtils] {l : List (UInt16 × Bytes)} {nb : NlaBuffer} {word : UInt16} {b v : Bytes}

/-! ## What the loop comes back with -/

/-- The identifier an attribute holds: two kinds are of them, with four
bytes. -/
def vniOf (a : UInt16 × Bytes) : Option UInt32 :=
  if (kindOf a = MDBA_MDB_EATTR_VNI ∨ kindOf a = MDBA_MDB_EATTR_SRC_VNI) ∧ a.2.length = 4 then
    some (ne.toU32 a.2)
  else none

/-- What a list of attributes says: the last of a kind decides. -/
def MdbEattrs.ofList (l : List (UInt16 × Bytes)) : MdbEattrs where
  source := (lastSome? (payloadOf MDBA_MDB_EATTR_SOURCE) l).bind ipFromNla
  dst := (lastSome? (payloadOf MDBA_MDB_EATTR_DST) l).bind ipFromNla
  vni := lastSome? vniOf l

/-- One turn. -/
theorem parseEattr_ofList (hc : Carries nb word v) :
    parseEattr (.ofList l) nb = .ok (.ofList (l ++ [(word, v)])) := by
  rw [parseEattr, hc.kind, Outcome.ok_bind, hc.value]
  simp only [MdbEattrs.ofList, lastSome?_concat, payloadOf, vniOf, kindOf]
  generalize word &&& NLA_TYPE_MASK = k
  by_cases hs : k = MDBA_MDB_EATTR_SOURCE
  · subst hs
    rfl
  by_cases hd : k = MDBA_MDB_EATTR_DST
  · subst hd
    rfl
  by_cases hv : k = MDBA_MDB_EATTR_VNI ∨ k = MDBA_MDB_EATTR_SRC_VNI
  · by_cases hlen : v.length = 4
    · rcases hv with rfl | rfl <;> simp [select, parseEattr.withVni, hlen, hs, hd]
    · rcases hv with rfl | rfl <;> simp [select, parseEattr.withVni, hlen, hs, hd]
  · rw [select_default (by simpa [hs, hd] using hv)]
    simp [hs, hd, hv]

/-- **The whole loop**, from what it found in the attributes before. -/
theorem parseEattrs_ofList :
    parseEattrs (nlas b) (.ofList l) = .ok (.ofList (l ++ carried b)) := by
  induction b using nlas_ind generalizing l with
  | hnil => simp [nlas_nil, parseEattrs]
  | hvalid b hv ih =>
    rw [nlas_of_valid hv, carried_of_valid hv, parseEattrs, parseEattr_ofList hv.carries,
      Outcome.ok_bind, ih, List.append_assoc, List.singleton_append]
  | hbad b hb hv =>
    obtain ⟨e, he⟩ := nlas_of_not_valid hb hv
    rw [he, carried_of_not_valid hv, List.append_nil]
    rfl

/-- The entry that a fixed structure and the attributes behind it make. -/
def MdbEntry.of (e : BrMdbEntry) (l : List (UInt16 × Bytes)) : MdbEntry where
  portIfindex := e.ifindex
  state := e.state
  flags := e.flags
  vid := e.vid
  group := e.group
  source := (MdbEattrs.ofList l).source
  dst := (MdbEattrs.ofList l).dst
  vni := (MdbEattrs.ofList l).vni

/-- An entry info shorter than its struct gives no entry. -/
theorem parseEntryInfo_of_lt (h : v.length < BR_MDB_ENTRY_LEN) : parseEntryInfo v = .ok none :=
  if_pos h

/-- **What is long enough is one entry**: the structure in front, and what
the attributes behind it say. -/
theorem parseEntryInfo_of_le (h : BR_MDB_ENTRY_LEN ≤ v.length) :
    ∃ e, BrMdbEntry.codec.parse v = .ok e ∧
      parseEntryInfo v = .ok (some (.of e (carried (v.drop BR_MDB_ENTRY_LEN)))) := by
  have h28 : 28 ≤ v.length := h
  obtain ⟨e, he⟩ := BrMdbEntry.codec.parse_of_le v h
  refine ⟨e, he, ?_⟩
  have hs : ∀ lo hi, lo ≤ hi → hi ≤ 28 → slice v lo hi = .ok ((v.drop lo).take (hi - lo)) :=
    fun lo hi hlo hhi => slice_ok hlo (by omega)
  have hloop : parseEattrs (nlas (v.drop BR_MDB_ENTRY_LEN)) ⟨none, none, none⟩ =
      .ok (.ofList (carried (v.drop BR_MDB_ENTRY_LEN))) := parseEattrs_ofList (l := [])
  simp (disch := exact fits_of_le h rfl) only [BrMdbEntry.codec, getU8_of_le, getU16_of_le,
    getU32_of_le, getOctets_of_le, getU16Be_of_le, Outcome.ok_bind, Outcome.pure_eq] at he
  obtain rfl := Outcome.ok.inj he
  rw [parseEntryInfo, if_neg (by omega), hs 0 4 (by omega) (by omega), hs 6 8 (by omega) (by omega),
    hs 24 26 (by omega) (by omega), hs 8 12 (by omega) (by omega), hs 8 24 (by omega) (by omega),
    hs 8 14 (by omega) (by omega), index_of_lt (by omega), index_of_lt (by omega), sliceFrom_ok h]
  simp only [Outcome.ok_bind, hloop]
  -- the address behind any protocol is a part of the same sixteen bytes
  have haddr : (Octets.ofBytes 16 ((v.drop 8).take 16)).val = (v.drop 8).take 16 :=
    Octets.ofBytes_val (by rw [List.length_take, List.length_drop]; omega)
  have hstate : v.getD 4 0 = v[4] := List.getD_eq_getElem v 0 (by omega)
  have hflags : v.getD 5 0 = v[5] := List.getD_eq_getElem v 0 (by omega)
  simp only [MdbEntry.of, BrMdbEntry.group, haddr, List.take_take, hstate, hflags]
  split_ifs <;> rfl

/-- **The entry of a structure and the attributes behind it.** -/
theorem parseEntryInfo_bytes {e : BrMdbEntry} :
    parseEntryInfo (BrMdbEntry.codec.bytes e ++ b) = .ok (some (.of e (carried b))) := by
  have hlen : (BrMdbEntry.codec.bytes e).length = BR_MDB_ENTRY_LEN :=
    BrMdbEntry.codec.length_bytes
  obtain ⟨e', he, h⟩ := @parseEntryInfo_of_le _ (BrMdbEntry.codec.bytes e ++ b) (by
    rw [List.length_append, hlen]
    omega)
  have hsame : BrMdbEntry.codec.parse (BrMdbEntry.codec.bytes e ++ b) = .ok e :=
    BrMdbEntry.codec.parse_layout e b
  obtain rfl := Outcome.ok.inj (hsame.symm.trans he)
  rw [h, List.drop_left' hlen]

/-- Any bytes of its size are those of a structure. -/
theorem BrMdbEntry.exists_bytes_eq (h : v.length = BR_MDB_ENTRY_LEN) :
    ∃ e, BrMdbEntry.codec.bytes e = v := by
  have h28 : v.length = 28 := h
  obtain ⟨e, he⟩ := BrMdbEntry.codec.parse_of_le v (Nat.le_of_eq h.symm)
  refine ⟨e, ?_⟩
  simp (disch := exact fits_of_le (Nat.le_of_eq h.symm) rfl) only [BrMdbEntry.codec, getU8_of_le,
    getU16_of_le, getU32_of_le, getOctets_of_le, getU16Be_of_le, Outcome.ok_bind,
    Outcome.pure_eq] at he
  obtain rfl := Outcome.ok.inj he
  have hlen : ∀ i n, i + n ≤ 28 → ((v.drop i).take n).length = n := by
    intro i n hin
    rw [List.length_take, List.length_drop]
    omega
  have hcut : ∀ i n, (v.drop i).take n ++ v.drop (i + n) = v.drop i := by
    intro i n
    rw [← List.drop_drop, List.take_append_drop]
  have hcons : ∀ i (hi : i < v.length), v[i] :: v.drop (i + 1) = v.drop i :=
    fun i hi => (List.drop_eq_getElem_cons hi).symm
  have hend : (v.drop 26).take 2 = v.drop 26 := by
    rw [List.take_of_length_le]
    rw [List.length_drop]
    omega
  simp only [BrMdbEntry.codec, StructCodec.bytes, layoutBytes, List.flatMap_cons, List.flatMap_nil,
    List.append_nil, List.singleton_append, u32_toU32 _ (hlen 0 4 (by omega)),
    u16_toU16 _ (hlen 6 2 (by omega)), Octets.ofBytes_val (hlen 8 16 (by omega)),
    u16_toU16 _ (hlen 24 2 (by omega)), Octets.ofBytes_val (hlen 26 2 (by omega))]
  rw [hend, hcut 24 2, hcut 8 16, hcut 6 2, hcons 5 (by omega), hcons 4 (by omega), hcut 0 4,
    List.drop_zero]

/-! ## Which attributes matter, and in which order -/

/-- The payload has a length that its kind can have. -/
def EattrWellFormed (a : UInt16 × Bytes) : Prop :=
  (kindOf a = MDBA_MDB_EATTR_SOURCE ∨ kindOf a = MDBA_MDB_EATTR_DST →
      a.2.length = 4 ∨ a.2.length = 16) ∧
    (kindOf a = MDBA_MDB_EATTR_VNI ∨ kindOf a = MDBA_MDB_EATTR_SRC_VNI → a.2.length = 4)

/-- Put in at that place, an address would come behind a well-formed one of
its kind, and in front of none. -/
def Displaces (l : List (UInt16 × Bytes)) (i : ℕ) (a : UInt16 × Bytes) : Prop :=
  (kindOf a = MDBA_MDB_EATTR_SOURCE ∨ kindOf a = MDBA_MDB_EATTR_DST) ∧
    (∀ c ∈ l.drop i, kindOf c ≠ kindOf a) ∧
    ∃ p, lastSome? (payloadOf (kindOf a)) (l.take i) = some p ∧ (p.length = 4 ∨ p.length = 16)

/-- Both are entries, with the same fixed structure. -/
structure SameFixed (v v' : Bytes) : Prop where
  le : BR_MDB_ENTRY_LEN ≤ v.length
  le' : BR_MDB_ENTRY_LEN ≤ v'.length
  take_eq : v'.take BR_MDB_ENTRY_LEN = v.take BR_MDB_ENTRY_LEN

/-- The attributes of an entry. -/
abbrev eattrsOf (v : Bytes) : List (UInt16 × Bytes) := carried (v.drop BR_MDB_ENTRY_LEN)

/-- The second is the first with an attribute put in. -/
structure InsertedAt (v v' : Bytes) (i : ℕ) (a : UInt16 × Bytes) : Prop extends
  SameFixed v v' where
  eattrs : eattrsOf v' = (eattrsOf v).insertIdx i a

variable {i : ℕ} {a : UInt16 × Bytes} {v' : Bytes}

/-- Entries with the same fixed structure are the same when their attributes
say the same. -/
theorem SameFixed.parseEntryInfo_eq (h : SameFixed v v')
    (heq : MdbEattrs.ofList (eattrsOf v') = MdbEattrs.ofList (eattrsOf v)) :
    parseEntryInfo v' = parseEntryInfo v := by
  obtain ⟨e, he⟩ := @BrMdbEntry.exists_bytes_eq _ (v.take BR_MDB_ENTRY_LEN) (by
    rw [List.length_take, Nat.min_eq_left h.le])
  have hv : v = BrMdbEntry.codec.bytes e ++ v.drop BR_MDB_ENTRY_LEN := by
    rw [he, List.take_append_drop]
  have hv' : v' = BrMdbEntry.codec.bytes e ++ v'.drop BR_MDB_ENTRY_LEN := by
    rw [he, ← h.take_eq, List.take_append_drop]
  rw [hv, hv', parseEntryInfo_bytes, parseEntryInfo_bytes, MdbEntry.of, MdbEntry.of, heq]

omit [PacketUtils] in
/-- No kind is both of an address and of an identifier. -/
theorem not_vni_of_addr {k : UInt16} (hk : k = MDBA_MDB_EATTR_SOURCE ∨ k = MDBA_MDB_EATTR_DST) :
    ¬ (k = MDBA_MDB_EATTR_VNI ∨ k = MDBA_MDB_EATTR_SRC_VNI) := by
  rcases hk with rfl | rfl <;> decide

omit [PacketUtils] in
/-- An address is read from four bytes or sixteen and from no other length. -/
theorem ipFromNla_eq_none_iff : ipFromNla v = none ↔ ¬ (v.length = 4 ∨ v.length = 16) := by
  unfold ipFromNla
  split_ifs <;> simp_all

omit [PacketUtils] in
/-- What one kind of address says is not changed by a malformed attribute
that displaces no other. -/
theorem bind_lastSome?_insertIdx {k : UInt16}
    (hk : k = MDBA_MDB_EATTR_SOURCE ∨ k = MDBA_MDB_EATTR_DST) (hbad : ¬ EattrWellFormed a)
    (hd : ¬ Displaces l i a) :
    (lastSome? (payloadOf k) (l.insertIdx i a)).bind ipFromNla =
      (lastSome? (payloadOf k) l).bind ipFromNla := by
  by_cases hka : kindOf a = k
  · subst hka
    rcases Nat.lt_or_ge l.length i with hi | hi
    · rw [List.insertIdx_of_length_lt hi]
    · have hpayload : payloadOf (kindOf a) a = some a.2 := if_pos rfl
      have hnone : ipFromNla a.2 = none := by
        rw [ipFromNla_eq_none_iff]
        exact fun hlen => hbad ⟨fun _ => hlen, fun hv => absurd hv (not_vni_of_addr hk)⟩
      conv_rhs => rw [← List.take_append_drop i l]
      rw [insertIdx_eq_take_drop hi, lastSome?_append, lastSome?_cons, lastSome?_append, hpayload]
      rcases hlater : lastSome? (payloadOf (kindOf a)) (l.drop i) with _ | p
      · -- nothing of the kind comes later, and what comes before is malformed too
        have hno : ∀ c ∈ l.drop i, kindOf c ≠ kindOf a := by
          intro c hc hsame
          have hpc := lastSome?_eq_none_iff.1 hlater c hc
          rw [payloadOf, if_pos hsame] at hpc
          cases hpc
        rcases hbefore : lastSome? (payloadOf (kindOf a)) (l.take i) with _ | p
        · simpa using hnone
        · have hp : ipFromNla p = none :=
            ipFromNla_eq_none_iff.2 fun hlen => hd ⟨hk, hno, p, hbefore, hlen⟩
          simp [hnone, hp]
      · rfl
  · have hpayload : payloadOf k a = none := if_neg hka
    rw [lastSome?_insertIdx hpayload]

/-- A malformed attribute names no network. -/
theorem vniOf_eq_none (hbad : ¬ EattrWellFormed a) : vniOf a = none := by
  refine if_neg fun ⟨hk, hlen⟩ => hbad ⟨fun haddr => ?_, fun _ => hlen⟩
  exact absurd hk (not_vni_of_addr haddr)

/-- **A malformed attribute that displaces no other says nothing.** -/
theorem MdbEattrs.ofList_insertIdx (hbad : ¬ EattrWellFormed a) (hd : ¬ Displaces l i a) :
    MdbEattrs.ofList (l.insertIdx i a) = MdbEattrs.ofList l := by
  rw [ofList, bind_lastSome?_insertIdx (.inl rfl) hbad hd,
    bind_lastSome?_insertIdx (.inr rfl) hbad hd, lastSome?_insertIdx (vniOf_eq_none hbad), ofList]

/-- **Attributes of different kinds say the same in any order**, unless both
kinds of identifier are there and differ. -/
theorem MdbEattrs.ofList_perm {l' : List (UInt16 × Bytes)} (hp : l.Perm l')
    (hkinds : (l.map kindOf).Nodup)
    (hvni : ∀ a ∈ l, ∀ c ∈ l, kindOf a = MDBA_MDB_EATTR_VNI →
      kindOf c = MDBA_MDB_EATTR_SRC_VNI → a.2 = c.2) :
    MdbEattrs.ofList l' = MdbEattrs.ofList l := by
  have hmem : ∀ c, c ∈ l ↔ c ∈ l' := fun c => hp.mem_iff
  have hsame : ∀ a ∈ l, ∀ c ∈ l, kindOf a = kindOf c → a = c :=
    fun a ha c hc => List.inj_on_of_nodup_map hkinds ha hc
  have haddr : ∀ k, lastSome? (payloadOf k) l = lastSome? (payloadOf k) l' := by
    intro k
    refine lastSome?_congr_mem hmem fun a ha c hc p q hap hcq => ?_
    simp only [payloadOf, Option.ite_none_right_eq_some, Option.some.injEq] at hap hcq
    obtain rfl := hsame a ha c hc (hap.1.trans hcq.1.symm)
    exact hap.2.symm.trans hcq.2
  have hvnis : lastSome? vniOf l = lastSome? vniOf l' := by
    refine lastSome?_congr_mem hmem fun a ha c hc p q hap hcq => ?_
    simp only [vniOf, Option.ite_none_right_eq_some, Option.some.injEq] at hap hcq
    obtain ⟨⟨hka, -⟩, rfl⟩ := hap
    obtain ⟨⟨hkc, -⟩, rfl⟩ := hcq
    -- of one kind they are one attribute, of two kinds they hold the same
    rcases hka with hka | hka <;> rcases hkc with hkc | hkc
    · rw [hsame a ha c hc (hka.trans hkc.symm)]
    · rw [hvni a ha c hc hka hkc]
    · rw [hvni c hc a ha hkc hka]
    · rw [hsame a ha c hc (hka.trans hkc.symm)]
  rw [ofList, ofList, haddr, haddr, hvnis]

/-- **What an entry says depends on its well-formed attributes**: a
malformed one put in changes nothing, unless it is an address and displaces
a well-formed one; and attributes of different kinds can change places,
unless they are two different identifiers. -/
theorem parseEntryInfo_eattrs (v v' : Bytes) :
    (∀ i a, InsertedAt v v' i a → ¬ EattrWellFormed a → ¬ Displaces (eattrsOf v) i a →
      parseEntryInfo v' = parseEntryInfo v) ∧
    (SameFixed v v' → (eattrsOf v).Perm (eattrsOf v') → ((eattrsOf v).map kindOf).Nodup →
      (∀ a ∈ eattrsOf v, ∀ c ∈ eattrsOf v, kindOf a = MDBA_MDB_EATTR_VNI →
        kindOf c = MDBA_MDB_EATTR_SRC_VNI → a.2 = c.2) →
      parseEntryInfo v' = parseEntryInfo v) := by
  constructor
  · intro i a h hbad hd
    exact h.toSameFixed.parseEntryInfo_eq (by rw [h.eattrs, MdbEattrs.ofList_insertIdx hbad hd])
  · intro h hp hkinds hvni
    exact h.parseEntryInfo_eq (MdbEattrs.ofList_perm hp hkinds hvni)

end

/-! ## On a little-endian host -/

section

attribute [local instance] Reference.little

/-- An entry of zeros and attributes behind it. -/
def zeroEntry (l : List (UInt16 × Bytes)) : Bytes := zeros BR_MDB_ENTRY_LEN ++ encodeNlas l

/-- Half an identifier changes nothing, and neither does the order. -/
theorem parseEntryInfo_zeroEntry :
    parseEntryInfo (zeroEntry
        [(MDBA_MDB_EATTR_SOURCE, [10, 0, 0, 1]), (MDBA_MDB_EATTR_VNI, [7, 0])]) =
      parseEntryInfo (zeroEntry [(MDBA_MDB_EATTR_SOURCE, [10, 0, 0, 1])]) ∧
    parseEntryInfo (zeroEntry
        [(MDBA_MDB_EATTR_VNI, [7, 0, 0, 0]), (MDBA_MDB_EATTR_SOURCE, [10, 0, 0, 1])]) =
      parseEntryInfo (zeroEntry
        [(MDBA_MDB_EATTR_SOURCE, [10, 0, 0, 1]), (MDBA_MDB_EATTR_VNI, [7, 0, 0, 0])]) := by
  constructor
  · refine (parseEntryInfo_eattrs _ _).1 1 (MDBA_MDB_EATTR_VNI, [7, 0])
      ⟨⟨by decide, by decide, rfl⟩, by decide⟩ (fun h => ?_) fun h => absurd h.1 (by decide)
    exact absurd (h.2 (.inl rfl)) (by decide)
  · exact (parseEntryInfo_eattrs _ _).2 ⟨by decide, by decide, rfl⟩ (by decide) (by decide)
      (by decide)

/-- A source cut short takes a well-formed one away, and of two identifiers
the last one stays. -/
theorem parseEntryInfo_zeroEntry_ne :
    parseEntryInfo (zeroEntry
        [(MDBA_MDB_EATTR_SOURCE, [10, 0, 0, 1]), (MDBA_MDB_EATTR_SOURCE, [10, 0])]) ≠
      parseEntryInfo (zeroEntry [(MDBA_MDB_EATTR_SOURCE, [10, 0, 0, 1])]) ∧
    parseEntryInfo (zeroEntry
        [(MDBA_MDB_EATTR_SRC_VNI, [8, 0, 0, 0]), (MDBA_MDB_EATTR_VNI, [7, 0, 0, 0])]) ≠
      parseEntryInfo (zeroEntry
        [(MDBA_MDB_EATTR_VNI, [7, 0, 0, 0]), (MDBA_MDB_EATTR_SRC_VNI, [8, 0, 0, 0])]) := by
  decide

end

end NetlinkRoute
