import NetlinkRoute.Common.Carried
import NetlinkRoute.Common.Reference
import NetlinkRoute.Mdb
/-!
# Multicast database messages, passed through

A message keeps the payloads of its attributes as they are, so that it can
be decoded and written again. The kinds that the decoder names come back
from their own numbers, an unknown kind without the flags of its kind word:
the bytes of a message come back exactly when no unknown attribute has
flags (`MdbMessage.passesThrough_iff`).
-/

namespace NetlinkRoute

open PacketUtils Emitter

section

variable [PacketUtils]

namespace MdbAttribute

variable {nb : NlaBuffer} {word : UInt16} {v : Bytes} {a : UInt16 × Bytes}

/-- The attribute that is decoded from a kind word and a payload. -/
def ofNla (a : UInt16 × Bytes) : MdbAttribute :=
  select (kindOf a) [
    (MDBA_MDB, .mdbEntry a.2),
    (MDBA_MROUTE, .mrouteEntry a.2),
    (MDBA_MDB_EATTR, .mdbExtAttrs a.2)]
    (.other ⟨kindOf a, a.2⟩)

/-- A carried attribute is read as one of its kind. -/
theorem parseWithParam_of_carries (hc : Carries nb word v) :
    parseWithParam nb = .ok (ofNla (word, v)) := by
  rw [parseWithParam, hc.bind, ofNla]
  simp only [select, apply_ite Outcome.ok]

omit [PacketUtils] in
/-- It is written with its payload, and with its kind but for the flags. -/
theorem kind_nla_ofNla : (ofNla a).nla.kind = kindOf a := by
  unfold ofNla
  refine select_ind (P := fun x : MdbAttribute => x.nla.kind = kindOf a) ?_ fun _ => rfl
  simp [nla, kind, eq_comm]

omit [PacketUtils] in
/-- Read and written again, it has the payload it came with. -/
theorem payload_nla_ofNla : (ofNla a).nla.Payload a.2 := by
  unfold ofNla
  refine select_ind (P := fun x : MdbAttribute => x.nla.Payload a.2) ?_ fun _ => ?_
  · simp [nla, Nla.Payload, valueLen, emitValue, (writes_copy rfl).fills]
  · exact (writes_copy rfl).fills

end MdbAttribute

namespace MdbMessage

variable {family : UInt8} {index : UInt32} {l : List (UInt16 × Bytes)}

/-- A message: the header with its padding zeroed, and attributes. -/
def canonicalBytes (family : UInt8) (index : UInt32) (l : List (UInt16 × Bytes)) : Bytes :=
  [family] ++ zeros 3 ++ ne.u32 index ++ encodeNlas l

/-- Every length is consistent, and the kinds that the decoder names have no
flags. -/
structure Canonical (l : List (UInt16 × Bytes)) : Prop where
  consistent : Consistent l
  bare : ∀ a ∈ l, kindOf a ∈ MdbAttribute.kinds → a.1 = kindOf a

/-- The message is decoded, and written again to the same bytes. -/
def PassesThrough (b : Bytes) : Prop :=
  ∃ m, format.decode b = .ok m ∧ Fills (format.emit m) (format.bufferLen m) b

/-- The canonical bytes are a header and the encoded attributes. -/
theorem canonicalBytes_eq : canonicalBytes family index l =
    MdbHeader.codec.bytes ⟨AddressFamily.codec.ofNum family, index⟩ ++ encodeNlas l := by
  simp [canonicalBytes, HeaderCodec.bytes, MdbHeader.codec, gapped]

/-- What is written lacks the flags, and nothing else. -/
theorem decode_canonicalBytes (hl : Consistent l) :
    ∃ m, format.decode (canonicalBytes family index l) = .ok m ∧
      Fills (format.emit m) (format.bufferLen m)
        (canonicalBytes family index (l.map fun a => (kindOf a, a.2))) := by
  have hw : MdbHeader.codec.WellFormed ⟨AddressFamily.codec.ofNum family, index⟩ :=
    AddressFamily.codec.canonical_ofNum family
  have hread : parseEach MdbAttribute.parseWithParam (encodeNlas l) =
      .ok (l.map MdbAttribute.ofNla) :=
    parseEach_encodeNlas_eq_map hl fun _ _ => MdbAttribute.parseWithParam_of_carries
  have hwrite : Fills (emitNlas ((l.map MdbAttribute.ofNla).map MdbAttribute.nla))
      (nlasLen ((l.map MdbAttribute.ofNla).map MdbAttribute.nla))
      (encodeNlas (l.map fun a => (kindOf a, a.2))) := by
    have hs : ∀ a ∈ l, (MdbAttribute.ofNla a).nla.valueLen ≤ 65531 := fun a ha =>
      MdbAttribute.payload_nla_ofNla.length_eq ▸ hl a ha
    have h := fills_emitNlas (t := fun a => (MdbAttribute.ofNla a).nla) (v := Prod.snd)
      (fun a (_ : a ∈ l) => MdbAttribute.payload_nla_ofNla) hs
    simp only [MdbAttribute.kind_nla_ofNla] at h
    rwa [List.map_map]
  refine ⟨⟨⟨AddressFamily.codec.ofNum family, index⟩, l.map MdbAttribute.ofNla⟩, ?_, ?_⟩
  · rw [canonicalBytes_eq]
    exact format.decode_bytes_append hw hread
  · rw [canonicalBytes_eq]
    exact format.fills_emit hwrite

theorem passesThrough_iff (h : Canonical l) : PassesThrough (canonicalBytes family index l) ↔
    ∀ a ∈ l, kindOf a ∉ MdbAttribute.kinds → a.1 = kindOf a := by
  have hmasked : Consistent (l.map fun a => (kindOf a, a.2)) :=
    List.forall_mem_map.2 h.consistent
  obtain ⟨m, hm, hout⟩ := @decode_canonicalBytes _ family index l h.consistent
  have hsame : PassesThrough (canonicalBytes family index l) ↔
      l.map (fun a => (kindOf a, a.2)) = l := by
    rw [← encodeNlas_inj hmasked h.consistent]
    constructor
    · rintro ⟨m', hm', hout'⟩
      obtain rfl := Outcome.ok.inj (hm.symm.trans hm')
      exact List.append_cancel_left (Outcome.ok.inj (hout.symm.trans hout'))
    · intro heq
      refine ⟨m, hm, ?_⟩
      rwa [canonicalBytes, heq] at hout
  have hfix : l.map (fun a => (kindOf a, a.2)) = l ↔ ∀ a ∈ l, (kindOf a, a.2) = a := by
    conv_lhs => rhs; rw [← List.map_id l]
    exact List.map_inj_left
  rw [hsame, hfix]
  refine forall₂_congr fun a ha => ⟨fun heq _ => (congrArg Prod.fst heq).symm, fun hk => ?_⟩
  -- a kind that is named has no flags to lose
  by_cases hknown : kindOf a ∈ MdbAttribute.kinds
  · exact Prod.ext (h.bare a ha hknown).symm rfl
  · exact Prod.ext (hk hknown).symm rfl

end MdbMessage

end

/-! ## On a little-endian host -/

section

attribute [local instance] Reference.little

namespace MdbMessage

/-- A database and an unknown attribute come back. -/
theorem passesThrough_bare :
    PassesThrough (canonicalBytes 7 3 [(MDBA_MDB, [1, 2, 3]), (9, [4])]) :=
  (passesThrough_iff ⟨by unfold Consistent; decide, by decide⟩).2 (by decide)

/-- A nested one does not. -/
theorem nested_not_passesThrough :
    ¬ PassesThrough (canonicalBytes 7 3 [(NLA_F_NESTED ||| 9, [4])]) := by
  rintro ⟨m, hm, hout⟩
  have hdec : format.decode (canonicalBytes 7 3 [(NLA_F_NESTED ||| 9, [4])]) =
      .ok ⟨⟨.bridge, 3⟩, [.other ⟨9, [4]⟩]⟩ := rfl
  obtain rfl := Outcome.ok.inj (hdec.symm.trans hm)
  -- the kind word is written as `9`
  unfold Fills at hout
  exact absurd hout (by decide)

end MdbMessage

end

end NetlinkRoute
