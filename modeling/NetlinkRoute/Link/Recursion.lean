import NetlinkRoute.Link.Model.Attribute
/-!
# Link — the recursion through veth peers

The list of `IFLA_LINKINFO` can hold a whole link message, the other end
of a virtual pair, whose attributes can hold such a list again. Each
level is strictly shorter than the one around it, so parsers that agree
on shorter payloads agree (`LinkInfo.parseVec_congr`,
`LinkAttribute.parseOver_congr`), and the decoder, which counts the
levels that are left, meets the equation it would have without counting
(`LinkMessage.decode_eq`). On the writing side, the emitters of a list
are those of its elements (`LinkAttribute.nlas_eq`).
-/

namespace NetlinkRoute

open PacketUtils Emitter

section

variable [PacketUtils]

/-! ## Values -/

/-- The recursion over the attributes of a peer is the ordinary map. -/
theorem LinkAttribute.nlas_eq (l : List LinkAttribute) :
    LinkAttribute.nlas l = l.map LinkAttribute.nla := by
  induction l with
  | nil => rfl
  | cons a l ih => rw [LinkAttribute.nlas, ih, List.map_cons, LinkAttribute.nla]

/-- Their lengths add up as those of any list of attributes. -/
theorem LinkAttribute.bufferLenSum_eq (l : List LinkAttribute) :
    LinkAttribute.bufferLenSum l = nlasLen (l.map LinkAttribute.nla) := by
  induction l with
  | nil => rfl
  | cons a l ih =>
    rw [LinkAttribute.bufferLenSum, ih, List.map_cons, nlasLen_cons]
    rfl

namespace LinkMessage

variable (m : LinkMessage)

/-- The length of a peer is the one of its format. -/
theorem bufferLen_eq : bufferLen m = format.bufferLen m := by
  obtain ⟨header, attributes⟩ := m
  rw [bufferLen, LinkAttribute.bufferLenSum_eq]
  rfl

/-- A peer is emitted by its format. -/
theorem emit_eq : emit m = format.emit m := by
  obtain ⟨header, attributes⟩ := m
  rw [emit, LinkAttribute.nlas_eq]
  rfl

end LinkMessage

/-! ## Parsers that agree on shorter payloads -/

section Congr

variable {p q : Bytes → Outcome LinkMessage} {payload : Bytes} {nb : NlaBuffer}

/-- The data of a pair reads its peer from a shorter buffer only. -/
theorem InfoVeth.parse_congr (hv : NlaValid nb.buffer)
    (h : ∀ c : Bytes, c.length < nb.buffer.length → p c = q c) :
    InfoVeth.parse p nb = InfoVeth.parse q nb := by
  have hlen := hv.length_value
  have hle := hv.2
  rw [InfoVeth.parse, InfoVeth.parse, hv.carries.bind, hv.carries.bind, h _ (by omega)]

/-- So does link data of any kind. -/
theorem InfoData.parseWithParam_congr {kind : InfoKind}
    (h : ∀ c : Bytes, c.length < payload.length → p c = q c) :
    InfoData.parseWithParam p payload kind = InfoData.parseWithParam q payload kind := by
  cases kind with
  | veth =>
    by_cases hv : NlaValid payload
    · have hv' : NlaValid (NlaBuffer.mk payload).buffer := hv
      simp only [InfoData.parseWithParam, newChecked_of_valid hv, Outcome.context_ok,
        Outcome.ok_bind, InfoVeth.parse_congr hv' h]
    · obtain ⟨e, he⟩ := newChecked_of_not_valid hv
      simp only [InfoData.parseWithParam, he, Outcome.context_err, Outcome.err_bind]
  | _ => rfl

/-- So does one step of the loop over link info. -/
theorem LinkInfo.step_congr {mem : LinkInfo.Memory} (hv : NlaValid nb.buffer)
    (h : ∀ c : Bytes, c.length < nb.buffer.length → p c = q c) :
    LinkInfo.step p mem nb = LinkInfo.step q mem nb := by
  have hlen := hv.length_value
  have hle := hv.2
  have hdata : ∀ kind, InfoData.parseWithParam p (nlaValue nb.buffer) kind =
      InfoData.parseWithParam q (nlaValue nb.buffer) kind := fun kind =>
    InfoData.parseWithParam_congr fun c hc => h c (by omega)
  simp only [LinkInfo.step, hv.carries.value, Outcome.ok_bind, hdata]

/-- The whole list of link info reads peers from shorter buffers only. -/
theorem LinkInfo.parseVec_congr (h : ∀ c : Bytes, c.length < payload.length → p c = q c) :
    LinkInfo.parseVec p payload = LinkInfo.parseVec q payload := by
  refine forEachFrom_congr fun mem o ho => ?_
  cases o with
  | ok nb =>
    have hle := length_le_of_mem_nlas ho
    exact LinkInfo.step_congr (valid_of_mem_nlas ho) fun c hc => h c (by omega)
  | err e => rfl
  | panic => rfl

variable {f g : Bytes → Outcome (List LinkInfo)} {family : AddressFamily}

/-- An attribute of a message reads its link info from a shorter buffer
only. -/
theorem LinkAttribute.parseOver_congr (hv : NlaValid nb.buffer)
    (h : ∀ c : Bytes, c.length < nb.buffer.length → f c = g c) :
    LinkAttribute.parseOver f family nb = LinkAttribute.parseOver g family nb := by
  have hlen := hv.length_value
  have hle := hv.2
  rw [LinkAttribute.parseOver, LinkAttribute.parseOver, hv.carries.bind, hv.carries.bind,
    LinkAttribute.arms, LinkAttribute.arms, h _ (by omega)]

end Congr

/-! ## The decoder without its counter -/

namespace LinkMessage

variable {p q : Bytes → Outcome LinkMessage} {b : Bytes}

/-- Two parsers of peers that agree on shorter strings give one decoder. -/
theorem decode_formatOver_congr (h : ∀ c : Bytes, c.length < b.length → p c = q c) :
    (formatOver (LinkInfo.parseVec p)).decode b = (formatOver (LinkInfo.parseVec q)).decode b := by
  refine (formatOver (LinkInfo.parseVec p)).decode_congr fun header => ?_
  refine parseEach_congr fun nb hnb => LinkAttribute.parseOver_congr (valid_of_mem_nlas hnb) ?_
  intro c hc
  have hle := length_le_of_mem_nlas hnb
  rw [List.length_drop] at hle
  exact LinkInfo.parseVec_congr fun c' hc' => h c' (by omega)

/-- Enough levels are enough. -/
theorem parseAt_eq_parseAt {d d' : ℕ} (h : b.length < d) (h' : b.length < d') :
    parseAt d b = parseAt d' b := by
  induction d generalizing b d' with
  | zero => omega
  | succ d ih =>
    obtain ⟨d', rfl⟩ : ∃ k, d' = k + 1 := ⟨d' - 1, by omega⟩
    rw [parseAt, parseAt]
    exact decode_formatOver_congr fun c hc => ih (by omega) (by omega)

/-- **The decoder's own equation**: a peer inside is decoded as the
message is. -/
theorem decode_eq : decode b = format.decode b := by
  rw [decode, parseAt]
  exact decode_formatOver_congr fun c hc => parseAt_eq_parseAt hc (Nat.lt_succ_self _)

end LinkMessage

end

end NetlinkRoute
