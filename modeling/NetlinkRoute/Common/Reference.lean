import NetlinkRoute.Common.Utils
/-!
# A reference implementation of the attribute layer

`PacketUtils` is an interface with laws; this is an executable
implementation that meets them, for a host of either byte order. It is
what concrete inputs are run through.
-/

namespace NetlinkRoute

open Emitter

namespace Reference

variable (e : Endian)

/-- The host alone. -/
abbrev host : Host := ⟨e⟩

/-- The parser of one width. -/
def fixed {α : Type} (what : String) (w : ℕ) (dec : Bytes → α) (b : Bytes) : Outcome α :=
  if b.length = w then .ok (dec b) else .fail ("invalid " ++ what)

/-- It is a parser of its width. -/
theorem fixed_spec {α : Type} {what : String} {w : ℕ} {dec : Bytes → α} :
    FixedWidth (fixed what w dec) w dec where
  ok _ h := if_pos h
  err _ h := ⟨_, if_neg h⟩

/-- The attributes of a buffer, at most `fuel` of them. -/
def nlasUpTo : ℕ → Bytes → List (Outcome NlaBuffer)
  | 0, _ => []
  | fuel + 1, b =>
    let _ := host e
    if b = [] then []
    else if NlaValid b then
      .ok ⟨b⟩ :: nlasUpTo fuel (b.drop (nlaAlign (nlaLength b)))
    else [.fail "invalid NLA buffer"]

/-- The attributes of a buffer: it has fewer than bytes. -/
def nlas (b : Bytes) : List (Outcome NlaBuffer) := nlasUpTo e b.length b

/-- More fuel than bytes makes no difference. -/
theorem nlasUpTo_of_le : ∀ (fuel : ℕ) (b : Bytes), b.length ≤ fuel →
    nlasUpTo e fuel b = nlasUpTo e b.length b := by
  intro fuel
  induction fuel using Nat.strongRecOn with
  | _ fuel ih =>
    intro b hb
    cases fuel with
    | zero => rw [Nat.le_zero.1 hb]
    | succ fuel =>
      cases b with
      | nil => simp [nlasUpTo]
      | cons x b =>
        -- a valid attribute is not empty, so what is left behind it is shorter than `b`
        let _ := host e
        simp only [nlasUpTo, List.length_cons]
        split
        · rfl
        · split
          · next hv =>
            have hlt := Nat.lt_of_lt_of_le (by decide : 0 < 4) hv.1
            have hal : nlaLength (x :: b) ≤ nlaAlign (nlaLength (x :: b)) := by
              unfold nlaAlign
              omega
            have hd : ((x :: b).drop (nlaAlign (nlaLength (x :: b)))).length ≤ b.length := by
              rw [List.length_drop, List.length_cons]
              omega
            have hb' : b.length ≤ fuel := by simpa using hb
            rw [ih fuel (by omega) _ (by omega), ih b.length (by omega) _ hd]
          · rfl

/-- The four header bytes. -/
def header (l : ℕ) (k : UInt16) : Bytes := e.u16 (UInt16.ofNat (l + 4)) ++ e.u16 k

/-- Header, payload, padding. -/
def emitNla (n : Nla) : Emitter :=
  block [put 0 (header e n.valueLen n.kind), onSlice 4 (4 + n.valueLen) n.emitValue,
    put (4 + n.valueLen) (zeros (nlaAlign n.valueLen - n.valueLen))]

/-- Each attribute in its own part of the buffer. -/
def emitNlas (ns : List Nla) : Emitter := inTurn (ns.map fun n => (n.bufferLen, emitNla e n))

/-- One of the two lengths an address has. -/
def parseIp (b : Bytes) : Outcome IpAddr :=
  if b.length = 4 then .ok (.v4 (Octets.ofBytes 4 b))
  else if b.length = 16 then .ok (.v6 (Octets.ofBytes 16 b))
  else .fail "invalid IP address"

/-- The bytes up to the terminator, as text. -/
def parseString (b : Bytes) : Outcome String :=
  match ofUtf8? (stripNul b) with
  | some s => .ok s
  | none => .fail "invalid string"

/-- **An attribute is written as its header, payload and padding.** -/
theorem emitNla_run {n : Nla} {b : Bytes} (hb : b.length = n.bufferLen) :
    (emitNla e n).run b = (fun v => header e n.valueLen n.kind ++ v ++
      zeros (nlaAlign n.valueLen - n.valueLen)) <$>
        n.emitValue.run ((b.drop 4).take n.valueLen) := by
  have hal : n.valueLen ≤ nlaAlign n.valueLen := by
    unfold nlaAlign
    omega
  have hh : (header e n.valueLen n.kind).length = 4 := by simp [header]
  unfold Nla.bufferLen at hb
  have hput : (put 0 (header e n.valueLen n.kind)).run b =
      .ok (header e n.valueLen n.kind ++ b.drop 4) := by
    rw [put_run (by omega)]
    simp [hh]
  simp only [emitNla, block_cons, block_nil, andThen_run, hput, Outcome.ok_bind]
  rw [onSlice_run (by omega) (by rw [List.length_append, List.length_drop]; omega),
    List.drop_left' hh, List.take_left' hh, Nat.add_sub_cancel_left]
  cases hv : n.emitValue.run ((b.drop 4).take n.valueLen) with
  | err _ => rfl
  | panic => rfl
  | ok v =>
    have hvl : v.length = n.valueLen := by
      rw [n.emitValue.length_run hv, List.length_take, List.length_drop]
      omega
    -- the padding is written behind the payload, and is the rest of the buffer
    have hd : (header e n.valueLen n.kind ++ b.drop 4).drop (4 + n.valueLen) =
        b.drop (4 + n.valueLen) := by
      rw [List.drop_append, hh, List.drop_eq_nil_of_le (by omega), List.nil_append, List.drop_drop]
      congr 1
      omega
    rw [Outcome.map_ok, Outcome.ok_bind, hd, andThen_run, put_run (by
      simp only [List.length_append, List.length_drop, hh, hvl, length_zeros]
      omega)]
    rw [List.take_left' (by rw [List.length_append, hh, hvl]), Outcome.ok_bind, skip_run,
      Outcome.map_ok, length_zeros, List.drop_eq_nil_of_le (by
        simp only [List.length_append, List.length_drop, hh, hvl]
        omega), List.append_nil]

/-- The reference implementation. -/
@[reducible] def utils : PacketUtils where
  endian := e
  kind nb := if 4 ≤ nb.buffer.length then
    .ok (let _ := host e; nlaWord nb.buffer &&& NLA_TYPE_MASK) else .panic
  kind_of_le h := if_pos h
  kind_of_lt h := if_neg (by simpa using h)
  value nb := let _ := host e; if NlaValid nb.buffer then .ok (nlaValue nb.buffer) else .panic
  value_of_valid h := if_pos h
  value_of_not_valid h := if_neg h
  newChecked b := let _ := host e; if NlaValid b then .ok ⟨b⟩ else .fail "invalid NLA buffer"
  newChecked_of_valid h := if_pos h
  newChecked_of_not_valid h := ⟨_, if_neg h⟩
  nlas := nlas e
  nlas_nil := rfl
  nlas_of_valid {b} h := by
    cases b with
    | nil => exact absurd (Nat.le_trans h.1 h.2) (by simp)
    | cons x b =>
      let _ := host e
      have h1 := h.1
      have hd : ((x :: b).drop (nlaAlign (nlaLength (x :: b)))).length ≤ b.length := by
        have hal : nlaLength (x :: b) ≤ nlaAlign (nlaLength (x :: b)) := by
          unfold nlaAlign
          omega
        rw [List.length_drop, List.length_cons]
        omega
      rw [nlas, List.length_cons, nlasUpTo, if_neg (by simp), if_pos h, nlasUpTo_of_le e _ _ hd]
      rfl
  nlas_of_not_valid {b} hb h := by
    cases b with
    | nil => exact absurd rfl hb
    | cons x b => exact ⟨.from "invalid NLA buffer",
        by rw [nlas, List.length_cons, nlasUpTo, if_neg hb, if_neg h]; rfl⟩
  defaultNla nb := let _ := host e; .ok ⟨nlaWord nb.buffer, nlaValue nb.buffer⟩
  defaultNla_of_valid _ := rfl
  header := header e
  length_header _ _ := by simp [header]
  header_eq _ := rfl
  Frames _ := True
  frames_of_le _ := trivial
  frames_mono _ _ := trivial
  emitNla := emitNla e
  emitNla_run _ := emitNla_run e
  emitNlas := emitNlas e
  emitNlas_run _ := rfl
  checkedBuffer what n b := if n ≤ b.length then .ok b else .fail ("invalid buffer " ++ what)
  checkedBuffer_of_le h := if_pos h
  checkedBuffer_of_lt h := ⟨_, if_neg (by simpa using h)⟩
  parseU8 := fixed "u8" 1 (·.headD 0)
  parseU8_spec := fixed_spec
  parseU16 := fixed "u16" 2 e.toU16
  parseU16_spec := fixed_spec
  parseU32 := fixed "u32" 4 e.toU32
  parseU32_spec := fixed_spec
  parseU64 := fixed "u64" 8 e.toU64
  parseU64_spec := fixed_spec
  parseI32 := fixed "i32" 4 e.toI32
  parseI32_spec := fixed_spec
  parseU16Be := fixed "u16" 2 be.toU16
  parseU16Be_spec := fixed_spec
  parseU32Be := fixed "u32" 4 be.toU32
  parseU32Be_spec := fixed_spec
  parseMac := fixed "MAC address" 6 (Octets.ofBytes 6)
  parseMac_spec := fixed_spec
  parseIp := parseIp
  parseIp_four h := if_pos h
  parseIp_sixteen h := by
    rw [parseIp, if_neg (by omega), if_pos h]
  parseIp_other h4 h16 := ⟨_, by rw [parseIp, if_neg h4, if_neg h16]; rfl⟩
  parseString := parseString
  parseString_some h := by
    unfold parseString
    rw [h]
  parseString_none h := by
    unfold parseString
    rw [h]
    exact ⟨_, rfl⟩

/-- It writes attributes of any size. -/
@[reducible] def framesAll : FramesAll where
  toPacketUtils := utils e
  frames _ := trivial

/-- The reference implementation on a little-endian host. -/
@[reducible] def little : PacketUtils := utils .little

end Reference

end NetlinkRoute
