import NetlinkRoute.Tc.Message
/-!
# Traffic control — messages about actions

A message about actions is a header and a list of attributes, one of which
holds the actions themselves. Two byte orders meet in it, and two kinds of
string. What is written comes back when each action names its kind once
and everything in it is of the variant that this kind selects
(`TcActionMessage.comesBack_of_selected`), and what was decoded is always
of that form.
-/

namespace NetlinkRoute

open PacketUtils Emitter

section

variable [PacketUtils] {nb : NlaBuffer} {b : Bytes}

/-! ## Attributes -/

namespace TcActionMessageAttribute

variable {a : TcActionMessageAttribute}

/-- The kinds the decoder names. -/
def kinds : List UInt16 :=
  [TCA_ACT_TAB, TCA_ROOT_FLAGS, TCA_ROOT_COUNT, TCA_ROOT_TIME_DELTA, TCA_ROOT_EXT_WARN_MSG]

/-- Every action is well formed, and an unknown attribute is of none of the
kinds the decoder names. -/
def WellFormed : TcActionMessageAttribute → Prop
  | .actions l => ∀ a ∈ l, a.WellFormed
  | .other n => n.Unknown kinds
  | _ => True

omit [PacketUtils] in
/-- This string has no terminator, neither when it is written nor when it
is read. -/
@[simp] theorem fromUtf8_utf8 (s : String) : fromUtf8 (utf8 s) = .ok s := by
  rw [fromUtf8, ofUtf8?_eq_some.2 rfl]

omit [PacketUtils] in
/-- Four bytes make a word. -/
theorem tryInto4_of_length (h : b.length = 4) : tryInto4 b = .ok b := if_pos h

/-- Flags are written as a word and its selector. -/
theorem writes_flags {v : TcActionMessageFlagsWithSelector} :
    Writes v.emitValue 8 (ne.u32 v.flags ++ ne.u32 v.selector) := by
  have ht : Tiles 0 [(0, ne.u32 v.flags), (4, ne.u32 v.selector)] := by simp [Tiles]
  have hc := covers_fields ht
  simpa [TcActionMessageFlagsWithSelector.emitValue] using hc.writes

/-- They are read back from both. -/
theorem parse_flags {v : TcActionMessageFlagsWithSelector} {word : UInt16}
    (hc : Carries nb word (ne.u32 v.flags ++ ne.u32 v.selector)) :
    TcActionMessageFlagsWithSelector.parse nb = .ok v := by
  have hlen : (ne.u32 v.flags ++ ne.u32 v.selector).length = 8 := by simp
  rw [TcActionMessageFlagsWithSelector.parse, hc.value, Outcome.ok_bind, if_neg (by simp),
    slice_append_left (length_u32 _ _).symm, Outcome.ok_bind, sliceFrom_ok (by omega),
    List.drop_left' (length_u32 _ _), Outcome.ok_bind, toU32_u32, toU32_u32]

/-- A well-formed attribute of an action message comes back. -/
theorem roundTrips (h : a.WellFormed) (hs : a.valueLen ≤ 65531) : RoundTrips parse a.nla a := by
  cases a with
  | actions l =>
    obtain ⟨out, hout, hread⟩ := exists_readsAs (r := id) (t := TcAction.nla)
      (fun action haction hs => TcAction.roundTrips (h action haction) hs) hs
    rw [List.map_id] at hread
    exact .of_arm_at hout TCA_ACT_TAB rfl (fun _ => rfl) fun _ _ => by
      rw [hread.parseEach_eq, Outcome.map_ok]
  | flags v =>
    exact .of_arm_at writes_flags.fills TCA_ROOT_FLAGS rfl (fun _ => rfl) fun _ hc => by
      rw [parse_flags hc, Outcome.map_ok]
  | rootCount v =>
    have hread := tryInto4_of_length (length_u32 ne v)
    exact .of_arm_at (writes_copy (length_u32 ne v)).fills TCA_ROOT_COUNT rfl (fun _ => rfl)
      fun _ _ => by simp [hread]
  | rootTimeDelta v =>
    have hread := tryInto4_of_length (length_u32 be v)
    exact .of_arm_at (writes_copy (length_u32 be v)).fills TCA_ROOT_TIME_DELTA rfl (fun _ => rfl)
      fun _ _ => by simp [hread]
  | rootExtWarnMsg s =>
    exact .of_arm_at writes_bytes.fills TCA_ROOT_EXT_WARN_MSG rfl (fun _ => rfl)
      fun _ _ => by simp
  | other n => exact .of_default_of (fun _ => h) fun nb hc => by rw [hc.defaultNla]; rfl

/-- The parser gives well-formed attributes only. -/
theorem holds_parse (hv : NlaValid nb.buffer) : (parse nb).Holds WellFormed := by
  have hactions : (parseEach TcAction.parse (nlaValue nb.buffer)).Holds
      fun l => ∀ a ∈ l, a.WellFormed :=
    holds_parseEach fun _ hnb => TcAction.holds_parse (valid_of_mem_nlas hnb)
  refine hv.holds_parse_of ?_ fun hk => ?_
  · simp [WellFormed, hactions]
  · rw [hv.carries.defaultNla]
    exact (Outcome.holds_ok _).2 hk

end TcActionMessageAttribute

/-! ## Messages -/

namespace TcActionMessage

variable {m : TcActionMessage}

/-- The message comes back: written into a zeroed buffer, it is decoded as
it was. -/
def ComesBack (m : TcActionMessage) : Prop :=
  ∃ out, Fills (emit m) (bufferLen m) out ∧ decode out = .ok m

/-- The family is canonical, and every attribute is well formed. -/
def WellFormed (m : TcActionMessage) : Prop :=
  AddressFamily.codec.Canonical m.header.family ∧ ∀ a ∈ m.attributes, a.WellFormed

/-- A well-formed action message comes back. -/
theorem comesBack_of_wellFormed (hw : WellFormed m) (hs : format.Sized m) : ComesBack m := by
  obtain ⟨out, hout, hdec⟩ := format.decode_emitted_of rfl hw.1 hs fun a ha =>
    TcActionMessageAttribute.roundTrips (hw.2 a ha) (hs a ha)
  exact ⟨out, hout, decode_eq.trans hdec⟩

/-- **What is decoded is well formed.** -/
theorem wellFormed_of_decode (h : decode b = .ok m) : WellFormed m := by
  rw [decode_eq] at h
  obtain ⟨-, -, hfamily, -⟩ := format.decode_eq_ok h
  refine ⟨hfamily, fun a ha => ?_⟩
  obtain ⟨nb, hv, hp⟩ := format.exists_of_mem_decode rfl h ha
  exact TcActionMessageAttribute.holds_parse hv a hp

/-- **A well-formed message comes back, and so does every message that was
decoded.** -/
theorem comesBack_of_selected :
    (∀ m : TcActionMessage, WellFormed m → format.Sized m → ComesBack m) ∧
      ∀ (b : Bytes) (m : TcActionMessage), decode b = .ok m → format.Sized m → ComesBack m :=
  ⟨fun _ => comesBack_of_wellFormed, fun _ _ h => comesBack_of_wellFormed (wellFormed_of_decode h)⟩

end TcActionMessage

end

/-! ## On a little-endian host -/

section Actions

attribute [local instance] Reference.little

namespace TcActionMessage

/-- A redirection whose kind stands behind its parameters, and the time
that has passed. -/
def redirect : TcActionMessage :=
  ⟨⟨.unspec⟩, [
    .actions [⟨1, [
      .options [.mirror (.parms ⟨⟨1, 0, .stolen, 1, 1⟩, .egressRedir, 2⟩)], .kind_ "mirred"]⟩],
    .rootTimeDelta 7]⟩

/-- It comes back, and so does a count that was sent with a flag. -/
theorem redirect_comesBack : ComesBack redirect ∧
    decode (zeros 4 ++ [8, 0, 3, 0x40, 1, 0, 0, 0]) = .ok ⟨⟨.unspec⟩, [.rootCount 1]⟩ ∧
    ComesBack ⟨⟨.unspec⟩, [.rootCount 1]⟩ := by
  have hparms : TcMirror.codec.WellFormed ⟨⟨1, 0, .stolen, 1, 1⟩, .egressRedir, 2⟩ := ⟨rfl, rfl⟩
  have hw : WellFormed redirect := by
    refine ⟨by decide, ?_⟩
    simp [redirect, TcActionMessageAttribute.WellFormed, TcAction.WellFormed, TcAction.kinds,
      TcActionAttribute.names, TcActionAttribute.Fits, TcActionOption.Fits,
      TcActionMirrorOption.Canonical, hparms]
  have hs : ∀ a ∈ redirect.attributes, a.valueLen ≤ 65531 := by decide
  have hdec : decode (zeros 4 ++ [8, 0, 3, 0x40, 1, 0, 0, 0]) =
      .ok ⟨⟨.unspec⟩, [.rootCount 1]⟩ := rfl
  refine ⟨comesBack_of_selected.1 redirect hw hs, hdec, ?_⟩
  exact comesBack_of_selected.2 _ _ hdec (List.forall_mem_singleton.2 (by decide))

/-- One action, of kind `fq_codel`, with these statistics. -/
def codelStats (x : TcXstats) : TcActionMessage :=
  ⟨⟨.unspec⟩, [.actions [⟨1, [.kind_ "fq_codel", .stats [.app x]]⟩]]⟩

/-- Statistics of this kind start with a word that says what they are: none
at all are refused, and bytes that no kind is asked for come back as those
of this one. -/
theorem codelStats_not_comesBack :
    (format.Sized (codelStats (.fqCodel (.other []))) ∧
      ¬ ComesBack (codelStats (.fqCodel (.other [])))) ∧
    (format.Sized (codelStats (.other [5, 0, 0, 0])) ∧
      ¬ ComesBack (codelStats (.other [5, 0, 0, 0]))) := by
  refine ⟨⟨List.forall_mem_singleton.2 (by decide), ?_⟩,
    ⟨List.forall_mem_singleton.2 (by decide), ?_⟩⟩
  · rintro ⟨out, hout, hdec⟩
    have hbytes : (emit (codelStats (.fqCodel (.other [])))).run
        (zeros (bufferLen (codelStats (.fqCodel (.other []))))) =
        .ok (zeros 4 ++ [32, 0, 1, 0, 28, 0, 1, 0] ++
          [13, 0, 1, 0, 102, 113, 95, 99, 111, 100, 101, 108, 0, 0, 0, 0] ++
          [8, 0, 4, 0, 4, 0, 4, 0]) := rfl
    cases hbytes.symm.trans hout
    cases hdec
  · rintro ⟨out, hout, hdec⟩
    have hbytes : (emit (codelStats (.other [5, 0, 0, 0]))).run
        (zeros (bufferLen (codelStats (.other [5, 0, 0, 0])))) =
        .ok (zeros 4 ++ [36, 0, 1, 0, 32, 0, 1, 0] ++
          [13, 0, 1, 0, 102, 113, 95, 99, 111, 100, 101, 108, 0, 0, 0, 0] ++
          [12, 0, 4, 0, 8, 0, 4, 0, 5, 0, 0, 0]) := rfl
    cases hbytes.symm.trans hout
    cases hdec

end TcActionMessage

end Actions

end NetlinkRoute
