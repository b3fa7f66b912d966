import NetlinkRoute.Route.Encap
import NetlinkRoute.Common.Reference
/-!
# Route — segment routing headers, cut up

A segment routing header is eight bytes, segments of sixteen, and TLVs.
Two decoders read it. `Ipv6SrHdr.parse` takes as many segments as the
count field says, computed in eight bits, and keeps an HMAC that it never
writes back; `Seg6IpTunnelEncap.parse` takes all there is for segments.
Here a string is cut where the first decoder cuts it, and each of the two
is described on the pieces: which counts are read (`covers_iff`), which
tails are kept (`keepsTail_iff`), and where the two decoders agree
(`Seg6IpTunnelEncap.agrees_iff`).
-/

namespace NetlinkRoute

open PacketUtils Emitter

/-! ## Segments -/

/-- A whole number of segments is a list of them. -/
theorem exists_segmentBytes {n : ℕ} {b : Bytes} (hb : b.length = n * 16) :
    ∃ segments, segmentBytes segments = b ∧ segments.length = n := by
  induction n generalizing b with
  | zero => exact ⟨[], (List.eq_nil_of_length_eq_zero (by omega)).symm, rfl⟩
  | succ n ih =>
    obtain ⟨segments, hs, hn⟩ := ih (b := b.drop 16) (by rw [List.length_drop]; omega)
    have h16 : (b.take 16).length = 16 := by
      rw [List.length_take]
      omega
    refine ⟨⟨b.take 16, h16⟩ :: segments, ?_, by rw [List.length_cons, hn]⟩
    rw [segmentBytes, List.flatMap_cons, ← segmentBytes, hs, List.take_append_drop]

namespace Ipv6SrHdr

variable [PacketUtils] {v : Ipv6SrHdr} {b tail : Bytes}

/-! ## The pieces -/

/-- The number in the count field. -/
def countOf (b : Bytes) : ℕ := (b.getD 3 0).toNat

/-- Where the segments end that it counts. -/
def segmentsEnd (b : Bytes) : ℕ := 8 + (countOf b + 1) * 16

/-- The first eight bytes are those of a header. -/
theorem exists_layout (hb : 8 ≤ b.length) : ∃ v : Ipv6SrHdr, layoutBytes v.layout = b.take 8 ∧
    v.segmentsLeft.toNat = countOf b ∧ v.segments = [] ∧ v.tlvs = [] := by
  obtain ⟨b0, b1, b2, b3, b4, b5, b6, b7, rest, rfl⟩ :
      ∃ b0 b1 b2 b3 b4 b5 b6 b7 rest, b = b0 :: b1 :: b2 :: b3 :: b4 :: b5 :: b6 :: b7 :: rest := by
    match b, hb with
    | b0 :: b1 :: b2 :: b3 :: b4 :: b5 :: b6 :: b7 :: rest, _ =>
      exact ⟨b0, b1, b2, b3, b4, b5, b6, b7, rest, rfl⟩
  refine ⟨⟨b0, b1, b2, b3, b4, b5, ne.toU16 [b6, b7], [], []⟩, ?_, rfl, rfl, rfl⟩
  have htag : ne.u16 (ne.toU16 [b6, b7]) = [b6, b7] := u16_toU16 _ rfl
  simp [layout, htag]

/-- **A header with a count up to fourteen, on its pieces.** -/
theorem parse_layout_segments {segments : List Ipv6Addr} (hn : v.segmentsLeft.toNat ≤ 14)
    (hs : segments.length = v.segmentsLeft.toNat + 1) :
    parse (layoutBytes v.layout ++ (segmentBytes segments ++ tail)) =
      (fun tlvs => { v with segments, tlvs }) <$> parseTlvs tail := by
  have hlen := length_segmentBytes segments
  have h8 := v.length_layout
  obtain ⟨m, hm, len, hl, hlt⟩ := seglen_eq (n := v.segmentsLeft) (by omega)
  have hfull : len.toNat = (segmentBytes segments).length := by omega
  rw [parse, if_neg (by rw [List.length_append]; omega), parseFixed_layout, Outcome.ok_bind,
    sliceFrom_ok (by rw [List.length_append]; omega), List.drop_left' h8, Outcome.ok_bind]
  simp only [hm, hl, Outcome.ok_bind, hfull]
  rw [if_neg (by rw [List.length_append]; omega), slice_append_left rfl, Outcome.ok_bind,
    parseSegments_segmentBytes, Outcome.ok_bind, sliceFrom_ok (by simp), List.drop_left,
    Outcome.ok_bind]
  cases parseTlvs tail <;> rfl

/-- The same for a string that is cut there. -/
theorem parse_of_count_le (hn : countOf b ≤ 14) (hb : segmentsEnd b ≤ b.length) :
    ∃ h : Ipv6SrHdr, h.WellFormed ∧ h.bytes = b.take (segmentsEnd b) ∧
      h.segments.length = countOf b + 1 ∧
      parse b = (fun tlvs => { h with tlvs }) <$> parseTlvs (b.drop (segmentsEnd b)) := by
  have hend : segmentsEnd b = 8 + (countOf b + 1) * 16 := rfl
  -- the eight bytes are the fixed fields, and what follows are the segments counted there
  obtain ⟨v, hv, hcount, -, htlvs⟩ := exists_layout (b := b) (by omega)
  obtain ⟨segments, hs, hlen⟩ := exists_segmentBytes (n := countOf b + 1)
    (b := (b.drop 8).take ((countOf b + 1) * 16)) (by
      rw [List.length_take, List.length_drop]
      omega)
  have htake : layoutBytes v.layout ++ segmentBytes segments = b.take (segmentsEnd b) := by
    rw [hv, hs, hend, List.take_add]
  refine ⟨{ v with segments }, ⟨htlvs, ?_, ?_⟩, htake, hlen, ?_⟩
  · rw [hlen, ← hcount]
  · rw [hlen]
    omega
  · have hparse := @parse_layout_segments _ v (b.drop (segmentsEnd b)) _
      (hcount ▸ hn) (hlen.trans (by rw [hcount]))
    rwa [← List.append_assoc, htake, List.take_append_drop] at hparse

/-- A string that ends before its segments do. -/
theorem parse_of_short (hn : countOf b ≤ 14) (hb : b.length < segmentsEnd b) :
    ∃ e, parse b = .err e := by
  have hend : segmentsEnd b = 8 + (countOf b + 1) * 16 := rfl
  rcases Nat.lt_or_ge b.length 8 with h8 | h8
  · exact ⟨_, if_pos h8⟩
  obtain ⟨hdr, hf, hsl, -⟩ := parseFixed_of_le h8
  obtain ⟨m, hm, len, hl, hlt⟩ := seglen_eq (n := b.getD 3 0) (Nat.lt_succ_of_le hn)
  have hcount : (b.getD 3 0).toNat = countOf b := rfl
  rw [parse, if_neg (by omega), hf, Outcome.ok_bind, sliceFrom_ok h8, Outcome.ok_bind, hsl]
  simp only [hm, hl, Outcome.ok_bind]
  rw [if_pos (by rw [List.length_drop]; omega)]
  exact ⟨_, rfl⟩

/-- A count that does not fit in eight bits once multiplied. -/
theorem parse_of_count_gt (h8 : 8 ≤ b.length) (hn : 15 ≤ countOf b) : parse b = .panic :=
  parse_eq_panic_iff.2 ⟨h8, .inl hn⟩

/-! ## Counts -/

/-- A string of the size that its count says is read, and a shorter one is
refused: all its bytes are in the header that comes back. -/
def Covers (b : Bytes) : Prop :=
  (b.length = segmentsEnd b → ∃ h : Ipv6SrHdr, parse b = .ok h ∧ h.bytes = b ∧
    h.segments.length = countOf b + 1 ∧ h.tlvs = []) ∧
  (b.length < segmentsEnd b → ∃ e, parse b = .err e)

/-- Where the parser panics, nothing is covered. -/
theorem not_covers_of_panic (hb : b.length ≤ segmentsEnd b) (hp : parse b = .panic) :
    ¬ Covers b := by
  intro h
  rcases Nat.lt_or_eq_of_le hb with hlt | heq
  · obtain ⟨e, he⟩ := h.2 hlt
    rw [hp] at he
    cases he
  · obtain ⟨hdr, hhdr, -⟩ := h.1 heq
    rw [hp] at hhdr
    cases hhdr

/-- **The decoder covers the counts that it can multiply by sixteen in
eight bits.** A string of less than eight bytes has no count. -/
theorem covers_iff (b : Bytes) (hb : b.length ≤ segmentsEnd b) :
    Covers b ↔ b.length < 8 ∨ countOf b ≤ 14 := by
  constructor
  · intro h
    by_contra hnot
    exact not_covers_of_panic hb (parse_of_count_gt (by omega) (by omega)) h
  · rintro (h8 | hn)
    · have hend : segmentsEnd b = 8 + (countOf b + 1) * 16 := rfl
      exact ⟨fun h => by omega, fun _ => ⟨_, if_pos h8⟩⟩
    · refine ⟨fun heq => ?_, parse_of_short hn⟩
      obtain ⟨h, hw, hbytes, hlen, hparse⟩ := parse_of_count_le hn (Nat.le_of_eq heq.symm)
      rw [← heq, List.drop_length, parseTlvs, if_pos rfl, Outcome.map_ok] at hparse
      rw [← heq, List.take_length] at hbytes
      exact ⟨_, hparse, hbytes, hlen, rfl⟩

/-! ## Tails -/

/-- The tail starts as an HMAC of the length that one has. -/
def StartsHmac (tail : Bytes) : Prop :=
  4 ≤ tail.length ∧ tail.getD 0 0 = SR6_TLV_HMAC ∧ tail.getD 1 0 = 38

instance (tail : Bytes) : Decidable (StartsHmac tail) := inferInstanceAs (Decidable (_ ∧ _))

/-- The tail is too short for a TLV, or is an HMAC of another length. -/
def BadTail (tail : Bytes) : Prop :=
  tail ≠ [] ∧ (tail.length < 4 ∨ tail.getD 0 0 = SR6_TLV_HMAC ∧ tail.getD 1 0 ≠ 38)

/-- A whole HMAC is kept. -/
theorem parseTlvs_of_startsHmac (h : StartsHmac tail) (hlen : 40 ≤ tail.length) :
    ∃ hmac, parseTlvs tail = .ok [.hmac hmac] := by
  obtain ⟨h4, htyp, h38⟩ := h
  have hi : ∀ i, i < 4 → index tail i = .ok (tail.getD i 0) := fun i hi => index_of_lt (by omega)
  have hkey := parseU32Be_spec.ok ((tail.drop 4).take (8 - 4)) (by
    rw [List.length_take, List.length_drop]
    omega)
  have hnil : tail ≠ [] := fun h => by simp [h] at h4
  rw [parseTlvs, if_neg hnil, if_neg (by omega), hi 0 (by omega), hi 1 (by omega),
    hi 2 (by omega), Outcome.ok_bind, Outcome.ok_bind, if_pos htyp, if_neg (fun h => h h38),
    Outcome.ok_bind, slice_ok (by omega) (by omega), Outcome.ok_bind, hkey, Outcome.context_ok,
    Outcome.ok_bind, sliceFrom_ok (by omega), Outcome.ok_bind,
    slice_ok (by omega) (by rw [List.length_drop]; omega)]
  exact ⟨_, rfl⟩

/-- Any other tail is refused or not looked at. -/
theorem parseTlvs_of_not_startsHmac (h : ¬ StartsHmac tail) :
    (BadTail tail ∧ ∃ e, parseTlvs tail = .err e) ∨ (¬ BadTail tail ∧ parseTlvs tail = .ok []) := by
  unfold parseTlvs BadTail
  by_cases hnil : tail = []
  · exact .inr ⟨fun h => h.1 hnil, if_pos hnil⟩
  by_cases h4 : tail.length < 4
  · exact .inl ⟨⟨hnil, .inl h4⟩, _, by rw [if_neg hnil, if_pos h4]; rfl⟩
  have hi : ∀ i, i < 4 → index tail i = .ok (tail.getD i 0) := fun i hi => index_of_lt (by omega)
  rw [if_neg hnil, if_neg h4, hi 0 (by omega), hi 1 (by omega), Outcome.ok_bind, Outcome.ok_bind]
  by_cases htyp : tail.getD 0 0 = SR6_TLV_HMAC
  · have h38 : tail.getD 1 0 ≠ 38 := fun h38 => h ⟨by omega, htyp, h38⟩
    exact .inl ⟨⟨hnil, .inr ⟨htyp, h38⟩⟩, _, by rw [if_pos htyp, if_pos h38]; rfl⟩
  · refine .inr ⟨?_, if_neg htyp⟩
    rintro ⟨-, hlt | ⟨heq, -⟩⟩
    · exact h4 hlt
    · exact htyp heq

/-- The tail is decoded without a panic, and a header comes back with what
was decoded of it. -/
def KeepsTail (b : Bytes) : Prop :=
  parse b ≠ .panic ∧ ∀ h : Ipv6SrHdr, parse b = .ok h →
    ∃ out, Writes h.emit h.bufferLen out ∧ parse out = .ok h

/-- An HMAC is sliced before its size is known, and is never written. -/
theorem not_keepsTail_of_startsHmac (hn : countOf b ≤ 14) (hb : segmentsEnd b ≤ b.length)
    (hhmac : StartsHmac (b.drop (segmentsEnd b))) : ¬ KeepsTail b := by
  obtain ⟨h, hw, -, -, hparse⟩ := parse_of_count_le hn hb
  rintro ⟨hsafe, hkeep⟩
  -- short of forty bytes the digest is sliced past the end; otherwise it is read, and dropped
  rcases Nat.lt_or_ge (b.drop (segmentsEnd b)).length 40 with hlt | hge
  · refine hsafe ?_
    rw [hparse, parseTlvs_eq_panic_iff.2 ⟨hhmac.1, hhmac.2.1, hhmac.2.2, hlt⟩]
    rfl
  · obtain ⟨hmac, hk⟩ := parseTlvs_of_startsHmac hhmac hge
    rw [hk] at hparse
    obtain ⟨out, hout, hread⟩ := hkeep _ hparse
    -- the bytes are those of the header without TLVs
    have hbytes := (h.writes_emit).fills
    cases Outcome.ok.inj (hbytes.symm.trans hout.fills)
    rw [parse_bytes hw] at hread
    have htlvs := congrArg Ipv6SrHdr.tlvs (Outcome.ok.inj hread)
    rw [hw.1] at htlvs
    cases htlvs

/-- **Tails are decoded safely and kept, unless they start as an HMAC.** -/
theorem keepsTail_iff (b : Bytes) (hn : countOf b ≤ 14) (hb : segmentsEnd b ≤ b.length) :
    KeepsTail b ↔ ¬ StartsHmac (b.drop (segmentsEnd b)) := by
  constructor
  · intro hkeep hhmac
    exact not_keepsTail_of_startsHmac hn hb hhmac hkeep
  · intro hhmac
    obtain ⟨h, hw, -, -, hparse⟩ := parse_of_count_le hn hb
    rcases parseTlvs_of_not_startsHmac hhmac with ⟨-, e, he⟩ | ⟨-, hk⟩
    · rw [he] at hparse
      exact ⟨by simp [hparse], fun h' hh' => by simp [hparse] at hh'⟩
    · rw [hk] at hparse
      refine ⟨by simp [hparse], fun h' hh' => ?_⟩
      cases Outcome.ok.inj (hparse.symm.trans hh')
      rw [← hw.1]
      exact ⟨_, h.writes_emit, parse_bytes hw⟩

/-! ## What is read -/

/-- The strings that are decoded to a header. -/
structure Readable (b : Bytes) : Prop where
  count_le : countOf b ≤ 14
  end_le : segmentsEnd b ≤ b.length
  not_bad : ¬ BadTail (b.drop (segmentsEnd b))
  whole_hmac : StartsHmac (b.drop (segmentsEnd b)) → 40 ≤ (b.drop (segmentsEnd b)).length

/-- A readable header is accepted. -/
theorem exists_parse_of_readable (hb : Readable b) : ∃ h, parse b = .ok h := by
  obtain ⟨h, -, -, -, hparse⟩ := parse_of_count_le hb.count_le hb.end_le
  by_cases hhmac : StartsHmac (b.drop (segmentsEnd b))
  · obtain ⟨hmac, hk⟩ := parseTlvs_of_startsHmac hhmac (hb.whole_hmac hhmac)
    exact ⟨_, by rw [hparse, hk, Outcome.map_ok]⟩
  · rcases parseTlvs_of_not_startsHmac hhmac with ⟨hbad, -⟩ | ⟨-, hk⟩
    · exact (hb.not_bad hbad).elim
    · exact ⟨_, by rw [hparse, hk, Outcome.map_ok]⟩

/-- A header that was read has the segments that its string counts. -/
theorem readable_of_parse {h : Ipv6SrHdr} (hb : parse b = .ok h) :
    Readable b ∧ h.segments.length = countOf b + 1 := by
  -- each way in which a string is not readable is one in which it is not read
  have h8 : 8 ≤ b.length := by
    by_contra hlt
    rw [parse, if_pos (by omega)] at hb
    cases hb
  have hn : countOf b ≤ 14 := by
    by_contra hgt
    rw [parse_of_count_gt h8 (by omega)] at hb
    cases hb
  have hend : segmentsEnd b ≤ b.length := by
    by_contra hlt
    obtain ⟨e, he⟩ := parse_of_short hn (by omega)
    rw [he] at hb
    cases hb
  obtain ⟨h', hw, -, hlen, hparse⟩ := parse_of_count_le hn hend
  obtain ⟨tlvs, hk, heq⟩ := (Outcome.map_eq_ok _).1 (hparse.symm.trans hb)
  refine ⟨⟨hn, hend, fun hbad => ?_, fun hhmac => ?_⟩, by rw [← heq, hlen]⟩
  · have hnot : ¬ StartsHmac (b.drop (segmentsEnd b)) := by
      rintro ⟨h4, htyp, h38⟩
      rcases hbad.2 with hlt | ⟨-, hne⟩
      · omega
      · exact hne h38
    rcases parseTlvs_of_not_startsHmac hnot with ⟨-, e, he⟩ | ⟨hgood, -⟩
    · rw [he] at hk
      cases hk
    · exact hgood hbad
  · by_contra hlt
    rw [parseTlvs_eq_panic_iff.2 ⟨hhmac.1, hhmac.2.1, hhmac.2.2, by omega⟩] at hk
    cases hk

end Ipv6SrHdr

/-! ## The other decoder -/

namespace Seg6IpTunnelEncap

open Ipv6SrHdr

variable [PacketUtils] {w s : Bytes}

/-- It refuses what is not a header and a whole number of segments. -/
theorem parse_append_err (hw : w.length = 4) (hs : s.length < 8 ∨ ¬ 16 ∣ s.length - 8) :
    ∃ e, parse (w ++ s) = .err e := by
  have hmode := parseU32_spec.ok w hw
  rw [parse, if_neg (by rw [List.length_append]; omega), slice_append_left hw.symm,
    Outcome.ok_bind, hmode, Outcome.context_ok, Outcome.ok_bind,
    sliceFrom_ok (by rw [List.length_append]; omega), List.drop_left' hw, Outcome.ok_bind]
  by_cases h8 : s.length < 8
  · exact ⟨_, if_pos h8⟩
  obtain ⟨hdr, hf, -⟩ := @parseFixed_of_le _ s (by omega)
  rw [if_neg h8, hf, Outcome.ok_bind, sliceFrom_ok (by omega), Outcome.ok_bind,
    if_pos (by rw [List.length_drop]; omega)]
  exact ⟨_, rfl⟩

/-- It makes one header of all of it otherwise. -/
theorem parse_append_ok (hw : w.length = 4) (h8 : 8 ≤ s.length) (h16 : 16 ∣ s.length - 8) :
    ∃ hdr : Ipv6SrHdr, hdr.bytes = s ∧ hdr.tlvs = [] ∧ hdr.segmentsLeft.toNat = countOf s ∧
      s.length = 8 + hdr.segments.length * 16 ∧
      parse (w ++ s) = .ok ⟨Seg6IpTunnelMode.codec.ofNum (ne.toU32 w), [hdr]⟩ := by
  obtain ⟨v, hv, hcount, -, htlvs⟩ := exists_layout h8
  obtain ⟨segments, hs, hlen⟩ := exists_segmentBytes (n := (s.length - 8) / 16) (b := s.drop 8) (by
    rw [List.length_drop]
    omega)
  have hbytes : ({ v with segments } : Ipv6SrHdr).bytes = s := by
    rw [Ipv6SrHdr.bytes, hs]
    exact (congrArg (· ++ s.drop 8) hv).trans (List.take_append_drop 8 s)
  refine ⟨{ v with segments }, hbytes, htlvs, hcount, ?_, ?_⟩
  · rw [hlen]
    omega
  · have hparse := parse_bytes (v := ⟨Seg6IpTunnelMode.codec.ofNum (ne.toU32 w),
      [{ v with segments }]⟩) ⟨EnumCodec.canonical_ofNum _ _, _, rfl, htlvs⟩
    rwa [bytes, EnumCodec.toNum_ofNum, u32_toU32 _ hw, List.flatMap_singleton, hbytes] at hparse

/-- A header that one decoder finds in `s` the other finds as well after a
mode, and nothing else; and it finds none where the first does not. -/
def Agrees (w s : Bytes) : Prop :=
  (∀ h, Ipv6SrHdr.parse s = .ok h →
    parse (w ++ s) = .ok ⟨Seg6IpTunnelMode.codec.ofNum (ne.toU32 w), [h]⟩) ∧
  ((∃ e, parse (w ++ s) = .ok e) → ∃ h, Ipv6SrHdr.parse s = .ok h)

/-- Both find a header where the string ends with the segments it counts. -/
theorem agrees_of_end (hw : w.length = 4) (hn : countOf s ≤ 14)
    (hend : s.length = segmentsEnd s) : Agrees w s := by
  have hdef : segmentsEnd s = 8 + (countOf s + 1) * 16 := rfl
  obtain ⟨hdr, hbytes, htlvs, hcount, hlen, hparse⟩ :=
    parse_append_ok (s := s) hw (by omega) (by omega)
  have hread := Ipv6SrHdr.parse_bytes (v := hdr) ⟨htlvs, by omega, by omega⟩
  rw [hbytes] at hread
  refine ⟨fun h hh => ?_, fun _ => ⟨_, hread⟩⟩
  cases Outcome.ok.inj (hread.symm.trans hh)
  exact hparse

/-- Where the second decoder finds a header, they agree on no other. -/
theorem end_of_agrees (hw : w.length = 4) (h8 : 8 ≤ s.length) (h16 : 16 ∣ s.length - 8)
    (h : Agrees w s) : countOf s ≤ 14 ∧ s.length = segmentsEnd s := by
  obtain ⟨hdr, -, -, -, hlen, hparse⟩ := parse_append_ok hw h8 h16
  obtain ⟨hdr', hread⟩ := h.2 ⟨_, hparse⟩
  have hboth := Outcome.ok.inj (hparse.symm.trans (h.1 _ hread))
  have hsame : hdr = hdr' := by
    injection hboth with _ hlist
    exact List.head_eq_of_cons_eq hlist
  obtain ⟨hb, hsegments⟩ := readable_of_parse hread
  refine ⟨hb.count_le, ?_⟩
  rw [hlen, hsame, hsegments]
  rfl

/-- **The two decoders agree where the segments that are counted are all
there is, and where both refuse the string.** -/
theorem agrees_iff (w s : Bytes) (hw : w.length = 4) :
    Agrees w s ↔ s.length < 8 ∨ (countOf s ≤ 14 ∧ s.length = segmentsEnd s) ∨
      (¬ 16 ∣ s.length - 8 ∧ ¬ Readable s) := by
  constructor
  · intro h
    by_cases h8 : s.length < 8
    · exact .inl h8
    -- read by one decoder, the rest is whole segments; refused by it, the other refuses it too
    by_cases h16 : 16 ∣ s.length - 8
    · exact .inr (.inl (end_of_agrees hw (by omega) h16 h))
    · refine .inr (.inr ⟨h16, fun hb => ?_⟩)
      obtain ⟨hdr, hread⟩ := exists_parse_of_readable hb
      obtain ⟨e, he⟩ := parse_append_err hw (.inr h16)
      rw [h.1 _ hread] at he
      cases he
  · rintro (h8 | ⟨hn, hend⟩ | ⟨h16, hb⟩)
    · obtain ⟨e, he⟩ := parse_append_err hw (.inl h8)
      refine ⟨fun hdr hread => ?_, fun ⟨v, hv⟩ => by simp [he] at hv⟩
      rw [Ipv6SrHdr.parse, if_pos h8] at hread
      cases hread
    · exact agrees_of_end hw hn hend
    · obtain ⟨e, he⟩ := parse_append_err hw (.inr h16)
      exact ⟨fun hdr hread => (hb (readable_of_parse hread).1).elim,
        fun ⟨v, hv⟩ => by simp [he] at hv⟩

end Seg6IpTunnelEncap

/-! ## Headers of the three kinds -/

attribute [local instance] Reference.little

namespace Ipv6SrHdr

/-- One segment, of zeros. -/
def oneSegment : Bytes := [41, 2, 4, 0, 0, 0, 0, 0] ++ List.replicate 16 0

/-- An HMAC of zeros, of the length that one has. -/
def zeroHmac : Bytes := [5, 38, 0, 0, 0, 0, 0, 0] ++ List.replicate 32 0

theorem one_covers : oneSegment.length ≤ segmentsEnd oneSegment ∧ Covers oneSegment := by
  have hlen : oneSegment.length ≤ segmentsEnd oneSegment := by decide
  exact ⟨hlen, (covers_iff _ hlen).2 (.inr (by decide))⟩

/-- Sixteen segments, in a string of their size, are too many. -/
theorem sixteen_not_covers :
    ∃ b : Bytes, countOf b = 15 ∧ b.length = segmentsEnd b ∧ parse b = .panic ∧ ¬ Covers b := by
  have hcount : countOf ([41, 32, 4, 15, 15, 0, 0, 0] ++ List.replicate 256 0) = 15 := rfl
  have hlen : ([41, 32, 4, 15, 15, 0, 0, 0] ++ List.replicate 256 0 : Bytes).length = 264 := by
    rw [List.length_append, List.length_replicate]
    rfl
  have hend : segmentsEnd ([41, 32, 4, 15, 15, 0, 0, 0] ++ List.replicate 256 0) = 264 := by
    rw [segmentsEnd, hcount]
  have hp := parse_of_count_gt (b := [41, 32, 4, 15, 15, 0, 0, 0] ++ List.replicate 256 0)
    (by omega) (by omega)
  exact ⟨_, hcount, hlen.trans hend.symm, hp, not_covers_of_panic (by omega) hp⟩

theorem padding_keepsTail : KeepsTail (oneSegment ++ [4, 2, 0, 0]) :=
  (keepsTail_iff _ (by decide) (by decide)).2 (by decide)

/-- Four bytes that start as an HMAC make the decoder panic, and a whole
one is read but is not written. -/
theorem hmac_not_keepsTail :
    parse (oneSegment ++ [5, 38, 0, 0]) = .panic ∧
      ¬ KeepsTail (oneSegment ++ [5, 38, 0, 0]) ∧
      (∃ h, parse (oneSegment ++ zeroHmac) = .ok h ∧ h.tlvs ≠ []) ∧
      ¬ KeepsTail (oneSegment ++ zeroHmac) := by
  refine ⟨rfl, ?_, ⟨_, rfl, by decide⟩, ?_⟩
  · exact not_keepsTail_of_startsHmac (by decide) (by decide) (by decide)
  · exact not_keepsTail_of_startsHmac (by decide) (by decide) (by decide)

end Ipv6SrHdr

namespace Seg6IpTunnelEncap

open Ipv6SrHdr

theorem one_agrees : Agrees [1, 0, 0, 0] oneSegment :=
  (agrees_iff _ _ rfl).2 (.inr (.inl (by decide)))

/-- Sixteen bytes after the segment that is counted are a second segment to
one decoder, and TLVs to the other. -/
theorem two_not_agree : ¬ Agrees [1, 0, 0, 0] (oneSegment ++ List.replicate 16 0) := by
  intro h
  have hend := end_of_agrees rfl (by decide) (by decide) h
  revert hend
  decide

end Seg6IpTunnelEncap

end NetlinkRoute
