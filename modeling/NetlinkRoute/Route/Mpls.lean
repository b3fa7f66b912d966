import NetlinkRoute.Route.Encap
/-!
# Route — label stacks on the wire

A label has four fields, each wider than its bits of the word, and the
word is put together by shifts and nothing else. What leaves a field on
the left is lost with the label, but the traffic class has the label on
its left: its upper bits are or-ed into it (`MplsLabel.onWire`). So a stack
keeps its fields exactly where those bits are set already
(`VecMplsLabel.keepsFields_iff`). A word always comes back.
-/

namespace NetlinkRoute

open PacketUtils Emitter

namespace MplsLabel

variable {v : MplsLabel}

/-- The bits of the traffic class that stand where the label does. -/
def spill (v : MplsLabel) : UInt32 := (v.trafficClass >>> 3).toUInt32

/-- The label whose word is written. -/
def onWire (v : MplsLabel) : MplsLabel :=
  { v with label := v.label % 1048576 ||| v.spill, trafficClass := v.trafficClass % 8 }

/-- What a traffic class spills over is what lies above its three bits. -/
theorem toNat_spill : v.spill.toNat = v.trafficClass.toNat / 8 := by
  rw [spill, UInt8.toNat_toUInt32, UInt8.toNat_shiftRight, show (3 : UInt8).toNat % 8 = 3 from rfl,
    Nat.shiftRight_eq_div_pow]

theorem spill_lt : v.spill.toNat < 32 := by
  have htc := v.trafficClass.toNat_lt
  rw [toNat_spill]
  omega

/-- On the wire the label takes in what the traffic class spills. -/
theorem toNat_label_onWire :
    v.onWire.label.toNat = v.label.toNat % 2 ^ 20 ||| v.trafficClass.toNat / 8 := by
  rw [onWire, UInt32.toNat_or, toNat_spill, UInt32.toNat_mod]
  rfl

/-- What stands on the wire is in range. -/
theorem inRange_onWire : v.onWire.InRange := by
  have htc := v.trafficClass.toNat_lt
  constructor
  · rw [toNat_label_onWire]
    exact Nat.or_lt_two_pow (Nat.mod_lt _ (by decide)) (by omega)
  · rw [onWire, UInt8.toNat_mod, show (8 : UInt8).toNat = 8 from rfl]
    omega

/-- **Both have the same word.** -/
theorem toU32_onWire : v.onWire.toU32 = v.toU32 := by
  have htc := v.trafficClass.toNat_lt
  -- the traffic class is its upper bits, shifted as the label is, and its lower ones
  have hsplit : 2 ^ 9 * v.trafficClass.toNat =
      (v.trafficClass.toNat / 8) <<< 12 ||| 2 ^ 9 * (v.trafficClass.toNat % 8) := by
    rw [Nat.shiftLeft_eq, Nat.mul_comm _ (2 ^ 12), ← Nat.two_pow_add_eq_or_of_lt (by omega)]
    omega
  -- a shift of thirty-two bits cuts the label, and keeps all of the traffic class
  have hlabel : ∀ l : UInt32, (l <<< MPLS_LS_LABEL_SHIFT).toNat = (l.toNat % 2 ^ 20) <<< 12 := by
    intro l
    rw [UInt32.toNat_shiftLeft, show MPLS_LS_LABEL_SHIFT.toNat % 32 = 12 from rfl,
      Nat.shiftLeft_eq, Nat.shiftLeft_eq]
    omega
  have hclass : ∀ c : UInt8, (c.toUInt32 <<< MPLS_LS_TC_SHIFT).toNat = 2 ^ 9 * c.toNat := by
    intro c
    have hc := c.toNat_lt
    rw [UInt32.toNat_shiftLeft, show MPLS_LS_TC_SHIFT.toNat % 32 = 9 from rfl, Nat.shiftLeft_eq,
      UInt8.toNat_toUInt32]
    omega
  have hhead : v.onWire.label <<< MPLS_LS_LABEL_SHIFT |||
      v.onWire.trafficClass.toUInt32 <<< MPLS_LS_TC_SHIFT =
      v.label <<< MPLS_LS_LABEL_SHIFT ||| v.trafficClass.toUInt32 <<< MPLS_LS_TC_SHIFT := by
    have hlow : v.onWire.trafficClass.toNat = v.trafficClass.toNat % 8 := by
      rw [onWire, UInt8.toNat_mod, show (8 : UInt8).toNat = 8 from rfl]
    refine UInt32.toNat_inj.1 ?_
    rw [UInt32.toNat_or, UInt32.toNat_or, hlabel, hlabel, hclass, hclass, hlow, hsplit,
      Nat.mod_eq_of_lt inRange_onWire.1, toNat_label_onWire, Nat.shiftLeft_or_distrib,
      Nat.or_assoc]
  exact congrArg (fun w => w ||| v.bottomOfStack.toUInt32 <<< MPLS_LS_S_SHIFT |||
    v.ttl.toUInt32 <<< MPLS_LS_TTL_SHIFT) hhead

/-- So it is what comes back. -/
theorem ofU32_toU32_eq : ofU32 v.toU32 = v.onWire := by
  rw [← toU32_onWire, ofU32_toU32 inRange_onWire]

/-- **No word is lost.** -/
theorem toU32_ofU32 (d : UInt32) : (ofU32 d).toU32 = d := by
  have hd := d.toNat_lt
  have hword := toNat_toU32 (inRange_ofU32 d)
  have hbit : (ofU32 d).bottomOfStack.toNat = d.toNat / 256 % 2 := by
    rw [bottomOfStack_ofU32]
    rcases Nat.mod_two_eq_zero_or_one (d.toNat / 256) with h | h <;> simp [h]
  rw [label_ofU32, trafficClass_ofU32, hbit, ttl_ofU32] at hword
  refine UInt32.toNat_inj.1 ?_
  omega

/-- `w` is `v` with each field cut to its bits. -/
structure CutTo (v w : MplsLabel) : Prop where
  label : w.label = v.label % 1048576
  trafficClass : w.trafficClass = v.trafficClass % 8
  bottomOfStack : w.bottomOfStack = v.bottomOfStack
  ttl : w.ttl = v.ttl

/-- **The label is cut where the traffic class sets no bit of it.** -/
theorem cutTo_onWire_iff : v.CutTo v.onWire ↔ v.label ||| v.spill = v.label := by
  have hspill : v.spill.toNat % 2 ^ 20 = v.spill.toNat :=
    Nat.mod_eq_of_lt (Nat.lt_trans spill_lt (by decide))
  have hcut : (v.label % 1048576).toNat = v.label.toNat % 2 ^ 20 := by
    rw [UInt32.toNat_mod]
    rfl
  constructor
  · intro h
    have hlow := congrArg UInt32.toNat h.label
    rw [onWire, UInt32.toNat_or, hcut] at hlow
    -- the bits that the cut leaves alone are those that the spill cannot set
    have hsum : v.label.toNat = 2 ^ 20 * (v.label.toNat / 2 ^ 20) ||| v.label.toNat % 2 ^ 20 := by
      rw [← Nat.two_pow_add_eq_or_of_lt (Nat.mod_lt _ (by decide))]
      omega
    refine UInt32.toNat_inj.1 ?_
    rw [UInt32.toNat_or, hsum, Nat.or_assoc, hlow]
  · intro h
    refine ⟨UInt32.toNat_inj.1 ?_, rfl, rfl, rfl⟩
    have hlow := congrArg (fun l => l.toNat % 2 ^ 20) h
    simp only [UInt32.toNat_or, Nat.or_mod_two_pow, hspill] at hlow
    rw [onWire, UInt32.toNat_or, hcut, hlow]

end MplsLabel

namespace VecMplsLabel

variable {labels : List MplsLabel}

/-- The bytes of a list of words. -/
def wordBytes (words : List UInt32) : Bytes := words.flatMap be.u32

/-- A stack is the bytes of its words. -/
theorem bytes_eq : bytes labels = wordBytes (labels.map MplsLabel.toU32) := by
  rw [bytes, wordBytes, List.flatMap_map]

/-- Words are read as labels, one by one. -/
theorem parse_wordBytes (words : List UInt32) :
    parse (wordBytes words) = .ok (words.map MplsLabel.ofU32) := by
  induction words with
  | nil => rfl
  | cons d words ih =>
    have hlabel : MplsLabel.parse (be.u32 d) = .ok (.ofU32 d) := by
      rw [MplsLabel.parse, if_pos (length_u32 _ _), toU32_u32]
    rw [wordBytes, List.flatMap_cons, parse_append (length_u32 _ _), hlabel, Outcome.ok_bind,
      ← wordBytes, ih]
    rfl

/-- What was written is decoded to as many labels, each cut to its bits. -/
def KeepsFields (labels : List MplsLabel) : Prop :=
  ∃ out labels', Writes (emit labels) (bufferLen labels) out ∧ parse out = .ok labels' ∧
    List.Forall₂ MplsLabel.CutTo labels labels'

/-- **The bits that a traffic class has too many end up in the label next
to it.** -/
theorem keepsFields_iff :
    KeepsFields labels ↔ ∀ v ∈ labels, v.label ||| v.spill = v.label := by
  have hparse : parse (bytes labels) = .ok (labels.map MplsLabel.onWire) := by
    rw [bytes_eq, parse_wordBytes, List.map_map]
    exact congrArg _ (List.map_congr_left fun v _ => MplsLabel.ofU32_toU32_eq)
  have hcut : List.Forall₂ MplsLabel.CutTo labels (labels.map MplsLabel.onWire) ↔
      ∀ v ∈ labels, v.label ||| v.spill = v.label := by
    rw [List.forall₂_map_right_iff, List.forall₂_same]
    exact forall₂_congr fun v _ => MplsLabel.cutTo_onWire_iff
  rw [← hcut]
  constructor
  · rintro ⟨out, labels', hout, hread, h⟩
    have hbytes := (@writes_emit labels).fills
    cases Outcome.ok.inj (hbytes.symm.trans hout.fills)
    cases Outcome.ok.inj (hparse.symm.trans hread)
    exact h
  · intro h
    exact ⟨_, _, writes_emit, hparse, h⟩

/-- **A stack that was decoded is written to the bytes it came from; a stack
that was built keeps its fields exactly when no traffic class sets a bit of
its label.** -/
theorem stack_iff (words : List UInt32) (d : UInt32) (labels : List MplsLabel) :
    (∃ decoded, parse (wordBytes words) = .ok decoded ∧
      Writes (emit decoded) (bufferLen decoded) (wordBytes words)) ∧
    (MplsLabel.ofU32 d).toU32 = d ∧
    (KeepsFields labels ↔ ∀ v ∈ labels, v.label ||| v.spill = v.label) := by
  refine ⟨⟨_, parse_wordBytes words, ?_⟩, MplsLabel.toU32_ofU32 d, keepsFields_iff⟩
  have hw := @writes_emit (words.map MplsLabel.ofU32)
  have hid : MplsLabel.toU32 ∘ MplsLabel.ofU32 = id := funext MplsLabel.toU32_ofU32
  have hwords : (words.map MplsLabel.ofU32).map MplsLabel.toU32 = words := by
    rw [List.map_map, hid, List.map_id]
  rwa [bytes_eq, hwords] at hw

/-- Label 16 with a traffic class of 8 is written as label 17 with a traffic
class of 0. -/
theorem sixteen_becomes_seventeen :
    parse (bytes [⟨16, 8, true, 64⟩]) = .ok [⟨17, 0, true, 64⟩] ∧
      ¬ KeepsFields [⟨16, 8, true, 64⟩] := by
  refine ⟨rfl, ?_⟩
  rw [keepsFields_iff]
  decide

end VecMplsLabel

end NetlinkRoute
