import NetlinkRoute.Common.Ends
import NetlinkRoute.Tc.Message
/-!
# Traffic control — what can be written

The emitters of traffic control end, but for one option: the selector of a
`u32` filter leaves room for the keys that its header counts, and a key
beyond these is written outside (`TcU32Selector.endsIf_emit`). A message
with such a selector is not written (`TcMessage.endsIf_emit`); actions
always are (`TcActionMessage.ends`).
-/

namespace NetlinkRoute

open PacketUtils Emitter

section

variable [PacketUtils]

/-! ## Values that can always be written -/

/-- Statistics of fq_codel fit the length they announce. -/
theorem TcFqCodelXstats.ends (a : TcFqCodelXstats) : Ends a.emit a.bufferLen := by
  cases a with
  | qdisc v => exact Ends.andThen_onTail (by simp [bufferLen]) StructCodec.ends_emit rfl
  | class_ v => exact Ends.andThen_onTail (by simp [bufferLen]) StructCodec.ends_emit rfl
  | other v => simp [emit, bufferLen]

/-- So do those of any application. -/
theorem TcXstats.ends (a : TcXstats) : Ends a.emit a.bufferLen := by
  cases a with
  | fqCodel v => exact v.ends
  | other v => simp [emit, bufferLen]

/-- So does each of the nested statistics. -/
theorem TcStats2.ends (a : TcStats2) : Ends a.emitValue a.valueLen := by
  cases a with
  | app v => exact v.ends
  | _ => simp [emitValue, valueLen]

theorem TcActionMirrorOption.ends (a : TcActionMirrorOption) : Ends a.emitValue a.valueLen := by
  cases a <;> simp [emitValue, valueLen]

theorem TcActionNatOption.ends (a : TcActionNatOption) : Ends a.emitValue a.valueLen := by
  cases a <;> simp [emitValue, valueLen]

/-- An option of an action fits the length it announces. -/
theorem TcActionOption.ends (a : TcActionOption) : Ends a.nla.emitValue a.nla.valueLen := by
  cases a with
  | mirror v => exact v.ends
  | nat v => exact v.ends
  | other v => exact DefaultNla.ends_emitValue

/-- An attribute of an action is written where its nested lists can be
framed. -/
theorem TcActionAttribute.ends (a : TcActionAttribute) (hs : Frames a.valueLen) :
    Ends a.emitValue a.valueLen := by
  cases a with
  | options l => exact ends_emitNlas hs fun a _ _ => a.ends
  | stats l => exact ends_emitNlas hs fun a _ _ => a.ends
  | _ => simp [emitValue, valueLen]

/-- So is an action. -/
theorem TcAction.ends (a : TcAction) (hs : Frames a.nla.valueLen) :
    Ends a.nla.emitValue a.nla.valueLen :=
  ends_emitNlas hs fun a _ ha => a.ends ha

omit [PacketUtils] in
/-- An option of a queue holds no list. -/
theorem TcQdiscIngressOption.ends (a : TcQdiscIngressOption) :
    Ends a.nla.emitValue a.nla.valueLen := by
  obtain ⟨v⟩ := a
  exact DefaultNla.ends_emitValue

theorem TcQdiscFqCodelOption.ends (a : TcQdiscFqCodelOption) : Ends a.emitValue a.valueLen := by
  cases a <;> simp [emitValue, valueLen]

/-- An option of matchall may hold actions, which have to be framed. -/
theorem TcFilterMatchAllOption.ends (a : TcFilterMatchAllOption) (hs : Frames a.valueLen) :
    Ends a.emitValue a.valueLen := by
  cases a with
  | action l => exact ends_emitNlas hs fun a _ ha => a.ends ha
  | _ => simp [emitValue, valueLen]

/-- So may an attribute of an action message. -/
theorem TcActionMessageAttribute.ends (a : TcActionMessageAttribute) (hs : Frames a.valueLen) :
    Ends a.emitValue a.valueLen := by
  cases a with
  | actions l => exact ends_emitNlas hs fun a _ ha => a.ends ha
  | _ => simp [emitValue, valueLen, TcActionMessageFlagsWithSelector.emitValue]

/-- **Actions are always written.** -/
theorem TcActionMessage.ends (m : TcActionMessage) (hs : TcActionMessage.format.Sized m) :
    Ends (TcActionMessage.emit m) (TcActionMessage.bufferLen m) :=
  (TcActionMessage.format.endsIf_emit hs.frames fun a ha =>
    (a.ends (hs.frames a ha)).endsIf trivial).ends fun _ _ => trivial

/-! ## The one that cannot -/

/-- **A selector is written exactly when it has no more keys than it
counts.** -/
theorem TcU32Selector.endsIf_emit (s : TcU32Selector) :
    EndsIf s.emit s.bufferLen (s.keys.length ≤ s.nkeys.toNat) := by
  have hkey : ∀ k ∈ s.keys.zipIdx,
      EndsIf (emitKey k) (s.nkeys.toNat * TC_U32_KEY_BUF_LEN) (k.2 < s.nkeys.toNat) := by
    rintro ⟨key, i⟩ -
    have hfits : (i + 1) * TC_U32_KEY_BUF_LEN - i * TC_U32_KEY_BUF_LEN = TcU32Key.codec.len := by
      rw [Nat.succ_mul, Nat.add_sub_cancel_left]
      rfl
    have hends : EndsIf (TcU32Key.codec.emit key)
        ((i + 1) * TC_U32_KEY_BUF_LEN - i * TC_U32_KEY_BUF_LEN) True := by
      rw [hfits]
      exact StructCodec.ends_emit.endsIf trivial
    refine (hends.onSlice (Nat.mul_le_mul_right _ (Nat.le_succ i))).congr ?_
    rw [and_true]
    exact ⟨fun h => Nat.le_of_mul_le_mul_right h (by decide), fun h => Nat.mul_le_mul_right _ h⟩
  have hall : (∀ k ∈ s.keys.zipIdx, k.2 < s.nkeys.toNat) ↔ s.keys.length ≤ s.nkeys.toNat := by
    constructor
    · intro h
      by_contra hlt
      have hlt : s.nkeys.toNat < s.keys.length := by omega
      have hmem : (s.keys[s.nkeys.toNat], s.nkeys.toNat) ∈ s.keys.zipIdx :=
        List.mem_zipIdx_iff_getElem?.2 (List.getElem?_eq_getElem hlt)
      exact Nat.lt_irrefl _ (h _ hmem)
    · rintro h ⟨key, i⟩ hk
      obtain ⟨hi, -⟩ := List.getElem?_eq_some_iff.1 (List.mem_zipIdx_iff_getElem?.1 hk)
      exact Nat.lt_of_lt_of_le hi h
  have htail : EndsIf (onTail TC_U32_SEL_BUF_LEN (block (s.keys.zipIdx.map emitKey))) s.bufferLen
      (s.keys.length ≤ s.nkeys.toNat) := by
    refine EndsIf.onTail ?_ (Nat.le_add_right _ _)
    rw [bufferLen, Nat.add_sub_cancel_left]
    exact (endsIf_block_map hkey).congr hall
  exact (header.ends_emit (Nat.le_add_right _ _)).andThen_endsIf htail

/-- An option is written when no selector has more keys than it counts. -/
def TcOption.Counted (o : TcOption) : Prop :=
  ∀ s, o = .u32 (.selector s) → s.keys.length ≤ s.nkeys.toNat

/-- An option is written exactly where its selector counts its keys. -/
theorem TcOption.endsIf_emitValue (o : TcOption) (hs : Frames o.nla.valueLen) :
    EndsIf o.nla.emitValue o.nla.valueLen o.Counted := by
  cases o with
  | u32 v =>
    cases v with
    | selector s =>
      refine s.endsIf_emit.congr ?_
      exact ⟨fun h s' heq => by cases heq; exact h, fun h => h s rfl⟩
    | action l => exact Ends.endsIf (ends_emitNlas hs fun a _ ha => a.ends ha) (by simp [Counted])
    | _ =>
      refine Ends.endsIf ?_ (by simp [Counted])
      simp [nla, TcFilterU32Option.nla, TcFilterU32Option.emitValue, TcFilterU32Option.valueLen]
  | fqCodel v => exact v.ends.endsIf (by simp [Counted])
  | ingress v => exact v.ends.endsIf (by simp [Counted])
  | matchAll v => exact (v.ends hs).endsIf (by simp [Counted])
  | other v => exact DefaultNla.ends_emitValue.endsIf (by simp [Counted])

/-- And an attribute when each option is. -/
def TcAttribute.Counted (a : TcAttribute) : Prop := ∀ l, a = .options l → ∀ o ∈ l, o.Counted

/-- An attribute is written exactly where the selectors in it do. -/
theorem TcAttribute.endsIf_emitValue (a : TcAttribute) (hs : Frames a.valueLen) :
    EndsIf a.emitValue a.valueLen a.Counted := by
  cases a with
  | options l =>
    have hall : ∀ o ∈ l, Frames o.nla.valueLen := fun o ho => frames_of_mem hs ho
    refine (endsIf_emitNlas hall fun o ho => o.endsIf_emitValue (hall o ho)).congr ?_
    exact ⟨fun h l' heq => by cases heq; exact h, fun h => h l rfl⟩
  | stats2 l => exact Ends.endsIf (ends_emitNlas hs fun a _ _ => a.ends) (by simp [Counted])
  | xstats v => exact v.ends.endsIf (by simp [Counted])
  | _ => exact Ends.endsIf (by simp [emitValue, valueLen]) (by simp [Counted])

namespace TcMessage

/-- There is a selector with more keys than it counts in the message. -/
def Unwritable (m : TcMessage) : Prop :=
  ∃ l s, .options l ∈ m.attributes ∧ .u32 (.selector s) ∈ l ∧ s.nkeys.toNat < s.keys.length

omit [PacketUtils] in
/-- A message is writable where each of its attributes is. -/
theorem not_unwritable_iff {m : TcMessage} :
    ¬ Unwritable m ↔ ∀ a ∈ m.attributes, a.Counted := by
  constructor
  · rintro h a ha l rfl o ho s rfl
    exact Nat.not_lt.1 fun hlt => h ⟨l, s, ha, ho, hlt⟩
  · rintro h ⟨l, s, hl, hs, hlt⟩
    exact Nat.not_le.2 hlt (h _ hl l rfl _ hs s rfl)

/-- **A message is written exactly when it has no such selector.** -/
theorem endsIf_emit (m : TcMessage) (hs : format.Sized m) :
    EndsIf (emit m) (bufferLen m) (¬ Unwritable m) :=
  (format.endsIf_emit hs.frames fun a ha => a.endsIf_emitValue (hs.frames a ha)).congr
    not_unwritable_iff.symm

end TcMessage

end

end NetlinkRoute
