import NetlinkRoute.Common.Message
import NetlinkRoute.Family
/-!
# Namespace ids

The ids that a network namespace gives to others: the model, and that a
message comes back from its own bytes (`decode_stable`).
-/

namespace NetlinkRoute

open PacketUtils Emitter

/-- `NsidHeader`. -/
structure NsidHeader where
  family : AddressFamily
deriving DecidableEq

/-- `NsidMessageBuffer`. The three bytes behind the family are no
field. -/
def NsidHeader.codec : HeaderCodec NsidHeader where
  len := 4
  parse buf := do return { family := AddressFamily.codec.ofNum (← getU8 buf 0) }
  layout h := [(0, [AddressFamily.codec.toNum h.family])]
  WellFormed h := AddressFamily.codec.Canonical h.family
  ascending h := by simp [Ascending]
  parse_layout h rest hw := by simp [gapped, hw.ofNum_toNum]
  parse_of_le b hb := by
    simp (disch := exact fits_of_le hb rfl) only [getU8_of_le, Outcome.ok_bind, Outcome.pure_eq]
    exact ⟨_, rfl, by simp⟩

variable [PacketUtils]

abbrev NETNSA_NSID : UInt16 := 1
abbrev NETNSA_PID : UInt16 := 2
abbrev NETNSA_FD : UInt16 := 3
abbrev NETNSA_TARGET_NSID : UInt16 := 4
abbrev NETNSA_CURRENT_NSID : UInt16 := 5

/-- The attributes of a namespace id message. -/
inductive NsidAttribute where
  | id (v : Int32)
  | pid (v : UInt32)
  | fd (v : UInt32)
  | targetNsid (v : Int32)
  | currentNsid (v : Int32)
  | other (v : DefaultNla)
deriving DecidableEq

namespace NsidAttribute

def kind : NsidAttribute → UInt16
  | .id _ => NETNSA_NSID
  | .pid _ => NETNSA_PID
  | .fd _ => NETNSA_FD
  | .targetNsid _ => NETNSA_TARGET_NSID
  | .currentNsid _ => NETNSA_CURRENT_NSID
  | .other attr => attr.kind

def valueLen : NsidAttribute → ℕ
  | .id _ | .pid _ | .fd _ | .targetNsid _ | .currentNsid _ => 4
  | .other attr => attr.valueLen

def emitValue : NsidAttribute → Emitter
  | .fd v | .pid v => .put 0 (ne.u32 v)
  | .id v | .targetNsid v | .currentNsid v => .put 0 (ne.i32 v)
  | .other attr => attr.emitValue

/-- The attribute, as the attribute layer sees it. -/
def nla (a : NsidAttribute) : Nla := ⟨a.valueLen, a.kind, a.emitValue⟩

def parse (buf : NlaBuffer) : Outcome NsidAttribute := do
  let payload ← value buf
  let kind ← PacketUtils.kind buf
  select kind [
    (NETNSA_NSID, .id <$> (parseI32 payload).context "invalid NETNSA_NSID"),
    (NETNSA_PID, .pid <$> (parseU32 payload).context "invalid NETNSA_PID"),
    (NETNSA_FD, .fd <$> (parseU32 payload).context "invalid NETNSA_FD"),
    (NETNSA_TARGET_NSID, .targetNsid <$> (parseI32 payload).context "invalid NETNSA_TARGET_NSID"),
    (NETNSA_CURRENT_NSID,
      .currentNsid <$> (parseI32 payload).context "invalid NETNSA_CURRENT_NSID")]
    (.other <$> (defaultNla buf).context ("unknown NLA type " ++ toString kind))

end NsidAttribute

/-- `NsidMessage`. -/
abbrev NsidMessage := Message NsidHeader NsidAttribute

/-- How a namespace id message is decoded and written. -/
def NsidMessage.format : MessageFormat NsidHeader NsidAttribute where
  buffer := "NsidMessageBuffer"
  header := NsidHeader.codec
  nla := NsidAttribute.nla
  parseAttributes _ := parseEach NsidAttribute.parse
  headerErr := some "failed to parse nsid message header"
  attributesErr := some "failed to parse nsid message NLAs"

/-! ## Written and read back -/

namespace NsidAttribute

variable {a : NsidAttribute} {nb : NlaBuffer}

/-- The kinds its parser names. -/
def kinds : List UInt16 :=
  [NETNSA_NSID, NETNSA_PID, NETNSA_FD, NETNSA_TARGET_NSID, NETNSA_CURRENT_NSID]

/-- The values that come back from their own bytes. -/
def WellFormed : NsidAttribute → Prop
  | .other n => n.Unknown kinds
  | _ => True

/-- A well-formed identifier comes back. -/
theorem roundTrips (h : a.WellFormed) : RoundTrips parse a.nla a := by
  cases a with
  | pid v | fd v =>
    refine (writes_put (length_u32 _ v)).roundTrips fun nb hc => ?_
    simp only [nla, kind] at hc
    rw [parse, hc.bind, select_of_find rfl]
    simp
  | other n =>
    refine (writes_copy rfl).roundTrips fun nb hc => ?_
    rw [parse, hc.bind, select_default (by exact h), hc.defaultNla]
    rfl
  | _ v =>
    refine (writes_put (length_i32 _ v)).roundTrips fun nb hc => ?_
    simp only [nla, kind] at hc
    rw [parse, hc.bind, select_of_find rfl]
    simp

/-- The parser gives well-formed identifiers only. -/
theorem holds_parse (hv : NlaValid nb.buffer) : (parse nb).Holds WellFormed := by
  rw [parse, hv.carries.bind]
  refine holds_select ?_ fun hk => ?_
  · simp [WellFormed]
  · rw [hv.carries.defaultNla]
    exact (Outcome.holds_ok _).2 hk

theorem parse_ne_panic (hv : NlaValid nb.buffer) : parse nb ≠ .panic := by
  rw [parse, hv.carries.bind]
  refine select_ne_panic ?_ ?_
  · simp
  · simp [hv.carries.defaultNla]

end NsidAttribute

namespace NsidMessage

variable {m : NsidMessage} {b : Bytes}

/-- The decoder does not panic. -/
theorem decode_ne_panic : format.decode b ≠ .panic :=
  format.decode_ne_panic_of rfl fun _ _ hv => NsidAttribute.parse_ne_panic hv

/-- **What was decoded is written back to the same message.** -/
theorem decode_stable (h : format.decode b = .ok m) (hs : format.Sized m) :
    ∃ out, Fills (format.emit m) (format.bufferLen m) out ∧ format.decode out = .ok m :=
  format.decode_stable_of rfl (fun _ _ a hv hp _ =>
    NsidAttribute.roundTrips (NsidAttribute.holds_parse hv a hp)) h hs

/-- The bytes behind the family stay what they were. -/
theorem not_uniform_emit : ¬ Uniform (format.emit m) (format.bufferLen m) := by
  refine format.not_uniform_emit (i := 1) (by simp [format, NsidHeader.codec]) ?_
  simp [format, NsidHeader.codec]

end NsidMessage

end NetlinkRoute
