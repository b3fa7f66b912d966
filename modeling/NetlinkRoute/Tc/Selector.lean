import NetlinkRoute.Common.Carried
import NetlinkRoute.Common.Reference
import NetlinkRoute.Tc.RoundTrip.Options
import NetlinkRoute.Tc.Safety
/-!
# Selectors — two counts of the keys

The keys of a selector are counted in its header, and again by the list that
holds them. Reading trusts the header with what there is to read, and panics
where there is less (`TcU32Selector.Reads`); writing makes room for the keys in
the header and goes through the list, and panics where the list has more
(`TcU32Selector.Written`). Both are as they should be where the header does not
count too many or too few (`TcU32Selector.counts_iff`), and a selector whose
counts agree comes back from any buffer (`TcU32Selector.parse_of_emit`).
-/

namespace NetlinkRoute

open PacketUtils Emitter

section

variable [PacketUtils] {nb : NlaBuffer} {word : UInt16} {payload b b' : Bytes}

namespace TcU32Selector

variable {s : TcU32Selector}

/-! ## Writing -/

/-- The setters of the header, in any buffer. -/
theorem run_header (h : 16 ≤ b.length) :
    ∃ pad, (header.emit s).run b = .ok (s.headBytes pad ++ b.drop 16) := by
  -- the setters in front of the byte that they leave out, and those behind it
  have hfront : (fields [(0, [s.flags]), (1, [s.offshift]), (2, [s.nkeys])]).run b =
      .ok ([s.flags, s.offshift, s.nkeys] ++ b.drop 3) :=
    covers_fields (by simp [Tiles]) b (show 3 ≤ b.length by omega)
  have hback := @run_fields_of_tiles [(4, ne.u16 s.offmask), (6, ne.u16 s.off),
    (8, ne.u16 s.offoff), (10, ne.u16 s.hoff), (12, ne.u32 s.hmask)]
    [s.flags, s.offshift, s.nkeys, b[3]] (by simp [Tiles]) (b.drop 4) (by simp; omega)
  refine ⟨b[3], ?_⟩
  rw [HeaderCodec.emit]
  change (fields ([(0, [s.flags]), (1, [s.offshift]), (2, [s.nkeys])] ++ _)).run b = _
  rw [fields_append_run, hfront, Outcome.ok_bind, List.drop_eq_getElem_cons (by omega)]
  refine hback.trans ?_
  simp [headBytes, List.drop_drop]

/-- **Writing, in any buffer that has room for the keys.** -/
theorem run_emit (hlen : b.length = s.bufferLen) (hkeys : s.keys.length ≤ s.nkeys.toNat) :
    ∃ pad rest, s.emit.run b = .ok (s.headBytes pad ++ keyBytes s.keys ++ rest) := by
  have hb : b.length = 16 + s.nkeys.toNat * 16 := hlen
  obtain ⟨pad, hpad⟩ := run_header (s := s) (show 16 ≤ b.length by omega)
  have hroom : s.keys.length * 16 ≤ (b.drop 16).length := by
    rw [List.length_drop]
    omega
  have hrun := @run_emitKeys _ s.keys [] (b.drop 16) 0 (Nat.zero_mul 16).symm hroom
  refine ⟨pad, (b.drop 16).drop (s.keys.length * 16), ?_⟩
  rw [emit, andThen_run, hpad, Outcome.ok_bind, onTail_run (by simp), List.drop_left' (by simp),
    List.take_left' (by simp), ← List.nil_append (b.drop 16), hrun]
  simp

/-- Writing has no room for more keys than the header counts. -/
theorem le_of_run_emit (hlen : b.length = s.bufferLen) (h : s.emit.run b = .ok b') :
    s.keys.length ≤ s.nkeys.toNat := by
  have hb : b.length = 16 + s.nkeys.toNat * 16 := hlen
  rw [emit, andThen_run, Outcome.bind_eq_ok] at h
  obtain ⟨c, hc, htail⟩ := h
  have hclen : c.length = b.length := (header.emit s).length_run hc
  rw [onTail_run (show 16 ≤ c.length by omega), Outcome.map_eq_ok] at htail
  obtain ⟨d, hblock, -⟩ := htail
  by_contra hlt
  -- the key for which the header has left no room
  obtain ⟨k, hk⟩ : ∃ k, s.keys[s.nkeys.toNat]? = some k := ⟨_, List.getElem?_eq_getElem (by omega)⟩
  have hmem : emitKey (k, s.nkeys.toNat) ∈ s.keys.zipIdx.map emitKey :=
    List.mem_map_of_mem (List.mem_zipIdx_iff_getElem?.2 hk)
  obtain ⟨e, e', helen, he⟩ := exists_run_of_block_run hblock hmem
  have hroom : (s.nkeys.toNat + 1) * 16 ≤ e.length := le_of_onSlice_run he
  rw [helen, List.length_drop] at hroom
  omega

/-- **A selector whose counts agree comes back from any buffer.** -/
theorem parse_of_emit (hlen : b.length = s.bufferLen) (hkeys : s.nkeys.toNat = s.keys.length)
    (h : s.emit.run b = .ok b') : parse b' = .ok s := by
  obtain ⟨pad, rest, hrun⟩ := run_emit hlen (Nat.le_of_eq hkeys.symm)
  obtain rfl := Outcome.ok.inj (hrun.symm.trans h)
  -- nothing of the buffer is left behind the keys
  have hrest := s.emit.length_run h
  have hb : b.length = 16 + s.nkeys.toNat * 16 := hlen
  rw [hb, hkeys, List.length_append, List.length_append, length_headBytes, length_keyBytes]
    at hrest
  obtain rfl := List.eq_nil_of_length_eq_zero (show rest.length = 0 by omega)
  rw [List.append_nil, parse_headBytes_append hkeys]

/-- Writing a selector, as it should be. -/
structure Written (s : TcU32Selector) : Prop where
  inside : ∀ b, b.length = s.bufferLen → ∃ b', s.emit.run b = .ok b'
  back : s.nkeys.toNat = s.keys.length → ∀ b b', b.length = s.bufferLen →
    s.emit.run b = .ok b' → parse b' = .ok s

/-- A selector can be written exactly where it counts at least its keys. -/
theorem written_iff : s.Written ↔ s.keys.length ≤ s.nkeys.toNat := by
  constructor
  · intro h
    obtain ⟨b', hb'⟩ := h.inside (zeros s.bufferLen) (length_zeros _)
    exact le_of_run_emit (length_zeros _) hb'
  · intro h
    refine ⟨fun b hlen => ?_, fun hkeys b b' hlen => parse_of_emit hlen hkeys⟩
    obtain ⟨pad, rest, hrun⟩ := run_emit hlen h
    exact ⟨_, hrun⟩

/-! ## Reading -/

/-- The number of keys in the header of a payload. -/
abbrev keyCount (payload : Bytes) : ℕ := (payload.getD 2 0).toNat

/-- What is read where there is room for the keys. -/
theorem exists_parse (h : 16 + 16 * keyCount payload ≤ payload.length) :
    ∃ s, parse payload = .ok s ∧ s.keys.length = keyCount payload ∧
      ∀ i key, s.keys[i]? = some key →
        TcU32Key.codec.parse ((payload.drop (16 + 16 * i)).take 16) = .ok key := by
  have hle : 16 ≤ payload.length := by omega
  obtain ⟨head, hhead, -⟩ := header.parse_of_le payload hle
  have hnkeys : getU8 payload 2 = .ok (payload.getD 2 0) := by
    rw [getU8_of_lt (by omega), List.getD_eq_getElem?_getD, List.getElem?_eq_getElem (by omega),
      Option.getD_some]
  have hroom : ∀ i < keyCount payload, (i + 1) * 16 ≤ (payload.drop 16).length := by
    intro i hi
    rw [List.length_drop]
    omega
  have hall : ∀ i ∈ List.range (keyCount payload), ∃ key, parseKey (payload.drop 16) i = .ok key :=
    fun i hi => (exists_parseKey (hroom i (List.mem_range.1 hi))).imp fun _ h => h.2
  obtain ⟨keys, hkeys⟩ := exists_forEach_eq_ok hall
  have heach := forEach_eq_ok_iff.1 hkeys
  have hcount : keys.length = keyCount payload := by
    rw [← heach.length_eq, List.length_range]
  refine ⟨{ head with nkeys := payload.getD 2 0, keys }, ?_, hcount, fun i key hkey => ?_⟩
  · rw [parse, hnkeys, Outcome.ok_bind, sliceFrom_ok hle, Outcome.ok_bind, hkeys, Outcome.ok_bind,
      hhead]
    rfl
  · obtain ⟨hi, rfl⟩ := List.getElem?_eq_some_iff.1 hkey
    have hi' : i < keyCount payload := hcount ▸ hi
    obtain ⟨key, hparse, hread⟩ := exists_parseKey (hroom i hi')
    have hget := heach.get (i := i) (by rwa [List.length_range]) hi
    rw [List.get_eq_getElem, List.getElem_range, hread] at hget
    rw [List.drop_drop, Nat.mul_comm i 16] at hparse
    rw [hparse, hget]
    rfl

/-- Reading a selector, as it should be. -/
structure Reads (nb : NlaBuffer) (payload : Bytes) : Prop where
  fitting : 16 + 16 * keyCount payload ≤ payload.length →
    ∃ s, TcFilterU32Option.parse nb = .ok (.selector s) ∧ s.keys.length = keyCount payload ∧
      ∀ i key, s.keys[i]? = some key →
        TcU32Key.codec.parse ((payload.drop (16 + 16 * i)).take 16) = .ok key
  short : payload.length < 16 + 16 * keyCount payload →
    ∃ e, TcFilterU32Option.parse nb = .err e

/-- A payload is read exactly where it holds the keys it counts. -/
theorem reads_iff (hc : Carries nb word payload) (hk : word &&& NLA_TYPE_MASK = TCA_U32_SEL)
    (hlen : 16 ≤ payload.length) :
    Reads nb payload ↔ 16 + 16 * keyCount payload ≤ payload.length := by
  have harm : TcFilterU32Option.parse nb =
      .selector <$> (parse payload).context "failed to parse TCA_U32_SEL" := by
    rw [TcFilterU32Option.parse, hc.bind, hk, select_of_find rfl, checkedBuffer_of_le hlen,
      Outcome.context_ok, Outcome.ok_bind]
  constructor
  · intro h
    by_contra hlt
    have hshort : payload.length < 16 + 16 * keyCount payload := Nat.not_le.1 hlt
    obtain ⟨e, he⟩ := h.short hshort
    -- it panics instead
    have hpanic := (parse_eq_panic_iff hlen).2 ⟨hlen, by rwa [Nat.mul_comm]⟩
    rw [harm, hpanic] at he
    cases he
  · intro hroom
    refine ⟨fun _ => ?_, fun hlt => absurd hroom (Nat.not_le.2 hlt)⟩
    obtain ⟨s, hs, hkeys⟩ := exists_parse hroom
    exact ⟨s, by rw [harm, hs]; rfl, hkeys⟩

/-- **Both are as they should be exactly where no key is counted that is not
there, and none is there that is not counted.** -/
theorem counts_iff (s : TcU32Selector) (hc : Carries nb word payload)
    (hk : word &&& NLA_TYPE_MASK = TCA_U32_SEL) (hlen : 16 ≤ payload.length) :
    (Reads nb payload ↔ 16 + 16 * keyCount payload ≤ payload.length) ∧
      (s.Written ↔ s.keys.length ≤ s.nkeys.toNat) :=
  ⟨reads_iff hc hk hlen, written_iff⟩

end TcU32Selector

end

/-! ## On a little-endian host -/

namespace TcU32Selector

attribute [local instance] Reference.little

/-- A header, and a key where the header counts one. -/
def selectorBytes (nkeys : UInt8) (keys : ℕ) : Bytes :=
  [0, 0, nkeys, 0] ++ zeros 12 ++ zeros (16 * keys)

/-- A selector with a key. -/
def oneKey (nkeys : UInt8) : TcU32Selector where
  flags := 0
  offshift := 0
  nkeys
  offmask := 0
  off := 0
  offoff := 0
  hoff := 0
  hmask := 0
  keys := [⟨0, 0, 0, 0⟩]

theorem counts_oneKey :
    Reads (nlaOf (TCA_U32_SEL, selectorBytes 1 1)) (selectorBytes 1 1) ∧ (oneKey 1).Written := by
  have h := counts_iff (oneKey 1)
    (carries_nlaOf (a := (TCA_U32_SEL, selectorBytes 1 1)) (by decide)) (by decide) (by decide)
  exact ⟨h.1.2 (by decide), h.2.2 (by decide)⟩

/-- A key is counted that is not there, and one is there that is not counted. -/
theorem not_counts_oneKey :
    ¬ Reads (nlaOf (TCA_U32_SEL, selectorBytes 1 0)) (selectorBytes 1 0) ∧
      ¬ (oneKey 0).Written := by
  constructor
  · rw [reads_iff (carries_nlaOf (a := (TCA_U32_SEL, selectorBytes 1 0)) (by decide)) (by decide)
      (by decide)]
    decide
  · rw [written_iff]
    decide

end TcU32Selector

end NetlinkRoute
