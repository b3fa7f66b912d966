import NetlinkRoute.Link.RoundTrip.Attribute
/-!
# Link — messages come back

What was decoded of a link comes back, but for what it says of its own
port (`LinkMessage.decode_stable`, `VecLinkInfo.parse_stable`): by
induction on the number of bytes, since the peer of a virtual pair was
decoded from fewer. Without `IFLA_LINKINFO` no induction is needed
(`LinkMessage.decode_stable_of_plain`).
-/

namespace NetlinkRoute

open PacketUtils Emitter

section

variable [PacketUtils]

namespace LinkMessage

variable {b : Bytes} {m : LinkMessage}

/-- The list of `IFLA_LINKINFO` is shorter than its message. -/
theorem nlasLen_linkInfo_lt {l : List LinkInfo} (h : .linkInfo l ∈ m.attributes) :
    nlasLen (l.map LinkInfo.nla) < bufferLen m := by
  have hle := valueLen_add_le_of_mem (t := LinkAttribute.nla) h
  have hval : (LinkAttribute.nla (.linkInfo l)).valueLen = nlasLen (l.map LinkInfo.nla) :=
    LinkInfo.bufferLenSum_eq l
  have hlen : bufferLen m = LinkHeader.codec.len + nlasLen (m.attributes.map LinkAttribute.nla) :=
    bufferLen_eq m
  omega

/-- A peer is shorter than its list. -/
theorem bufferLen_peer_lt {q : LinkMessage} {l : List LinkInfo} (h : .data (.veth (.peer q)) ∈ l) :
    bufferLen q < nlasLen (l.map LinkInfo.nla) := by
  have hle := valueLen_add_le_of_mem (t := LinkInfo.nla) h
  have hval : (LinkInfo.nla (.data (.veth (.peer q)))).valueLen = nlaAlign (bufferLen q) + 4 := rfl
  have hal := le_nlaAlign (bufferLen q)
  omega

/-- A message that fits an attribute has attributes that fit. -/
theorem sized_of_bufferLen_le (h : bufferLen m ≤ 65531) : format.Sized m := by
  intro a ha
  have hle := valueLen_add_le_of_mem (t := LinkAttribute.nla) ha
  rw [bufferLen_eq] at h
  have hsum : LinkHeader.codec.len + nlasLen (m.attributes.map LinkAttribute.nla) ≤ 65531 := h
  show (LinkAttribute.nla a).valueLen ≤ 65531
  omega

/-- What is written of a whole message is written of each attribute. -/
theorem frames_attributes (hs : Frames (bufferLen m)) : ∀ a ∈ m.attributes, Frames a.valueLen := by
  intro a ha
  rw [bufferLen_eq] at hs
  exact frames_of_mem (t := LinkAttribute.nla) (frames_mono (Nat.le_add_left _ _) hs) ha

/-- A message comes back that was decoded, that says nothing of its own
port, and whose lists of `IFLA_LINKINFO` come back. -/
theorem comesBack_of_decode (h : decode b = .ok m) (hs : format.Sized m)
    (hport : ∀ v, .portSelf v ∉ m.attributes)
    (hinfo : ∀ l, .linkInfo l ∈ m.attributes → ∀ p : Bytes, p.length < b.length →
      VecLinkInfo.parse p = .ok l → ∃ out, Fills (emitNlas (l.map LinkInfo.nla))
        (nlasLen (l.map LinkInfo.nla)) out ∧ VecLinkInfo.parse out = .ok l) :
    ComesBack m := by
  rw [decode_eq] at h
  obtain ⟨-, -, hw, hattrs⟩ := format.decode_eq_ok h
  have hex : ∃ out, Fills (format.emit m) (format.bufferLen m) out ∧ format.decode out = .ok m := by
    refine format.decode_emitted_of rfl hw hs fun a ha => ?_
    obtain ⟨nb, hnb, hp⟩ := exists_of_mem_parseEach hattrs ha
    have hread := LinkAttribute.holds_parse (valid_of_mem_nlas hnb) a hp
    refine LinkAttribute.roundTrips hread.canonical (hs a ha) (fun v hv => hport v (hv ▸ ha))
      hread.xdp_ne fun l hl => hinfo l (hl ▸ ha) _ ?_ (hread.linkInfo l hl).2
    have hlt := length_value_lt_of_mem_nlas hnb
    rw [List.length_drop] at hlt
    omega
  rwa [← emit_eq, ← bufferLen_eq, ← funext fun b => decode_eq (b := b)] at hex

/-- **What was decoded of a link comes back**, when there is neither
`IFLA_LINKINFO` nor `IFLA_PORT_SELF`. -/
theorem decode_stable_of_plain
    (hb : ∀ nb, .ok nb ∈ nlas (b.drop 16) →
      wireKind nb ≠ IFLA_LINKINFO ∧ wireKind nb ≠ IFLA_PORT_SELF)
    (h : decode b = .ok m) (hs : format.Sized m) :
    ∃ out, (emit m).run (zeros (bufferLen m)) = .ok out ∧ decode out = .ok m := by
  have hplain : ∀ a ∈ m.attributes, (∀ v, a ≠ .portSelf v) ∧ ∀ l, a ≠ .linkInfo l := by
    intro a ha
    obtain ⟨-, -, -, hattrs⟩ := format.decode_eq_ok (decode_eq ▸ h)
    obtain ⟨nb, hnb, hp⟩ := exists_of_mem_parseEach hattrs ha
    have hread := LinkAttribute.holds_parse (valid_of_mem_nlas hnb) a hp
    obtain ⟨hinfo, hport⟩ := hb nb hnb
    exact ⟨fun v hv => hport (hread.portSelf v hv), fun l hl => hinfo (hread.linkInfo l hl).1⟩
  exact comesBack_of_decode h hs (fun v hv => (hplain _ hv).1 v rfl)
    fun l hl => absurd rfl ((hplain _ hl).2 l)

/-- The message, or the peer of a virtual pair in it at any depth, says
something of its own port. -/
inductive HasPortSelf : LinkMessage → Prop where
  /-- The message itself. -/
  | here {m : LinkMessage} {v : LinkVfPort} (h : .portSelf v ∈ m.attributes) : HasPortSelf m
  /-- A peer inside. -/
  | peer {m peer : LinkMessage} {l : List LinkInfo} (h : .linkInfo l ∈ m.attributes)
    (hp : .data (.veth (.peer peer)) ∈ l) (hport : HasPortSelf peer) : HasPortSelf m

/-- The reserved byte of the header stays what it was. -/
theorem not_uniform_emit {m : LinkMessage} : ¬ Uniform (emit m) (bufferLen m) := by
  rw [emit_eq, bufferLen_eq]
  refine format.not_uniform_emit (i := 1) (by simp [format, formatOver, LinkHeader.codec]) ?_
  simp [format, formatOver, LinkHeader.codec]

end LinkMessage

namespace VecLinkInfo

variable {p : Bytes} {l : List LinkInfo}

/-- A list that was read comes back, when its peers do. -/
theorem comesBack_of_parse (h : parse p = .ok l) (hs : ∀ i ∈ l, i.valueLen ≤ 65531)
    (hpeer : ∀ m, .data (.veth (.peer m)) ∈ l → ∀ b : Bytes, b.length < p.length →
      LinkMessage.decode b = .ok m → LinkMessage.format.Sized m → LinkMessage.ComesBack m) :
    ∃ out, Fills (emitNlas (l.map LinkInfo.nla)) (nlasLen (l.map LinkInfo.nla)) out ∧
      parse out = .ok l := by
  have hread := holds_parse l h
  have hcomes : ∀ m, .data (.veth (.peer m)) ∈ l → LinkMessage.ComesBack m := by
    intro m hm
    obtain ⟨b, hb, hd⟩ := hread.peer m hm
    refine hpeer m hm b hb hd (LinkMessage.sized_of_bufferLen_le ?_)
    have hle : nlaAlign (LinkMessage.bufferLen m) + 4 ≤ 65531 := hs _ hm
    have hal := le_nlaAlign (LinkMessage.bufferLen m)
    omega
  obtain ⟨out, hout, hp⟩ := exists_parse ⟨hread.threaded, hcomes⟩ hs
  exact ⟨out, hout, by rw [hp, hread.received_eq]⟩

end VecLinkInfo

/-- **What was decoded of a link comes back**, when neither it nor a peer
in it says anything of its own port: by induction on the number of bytes
that a message was decoded from. -/
theorem LinkMessage.decode_stable {b : Bytes} {m : LinkMessage} (h : decode b = .ok m)
    (hs : format.Sized m) (hport : ¬ HasPortSelf m) : ComesBack m := by
  induction hn : b.length using Nat.strongRecOn generalizing b m with
  | _ n ih =>
    subst hn
    refine comesBack_of_decode h hs (fun v hv => hport (.here hv)) fun l hl p hp hparse => ?_
    have hsl : ∀ i ∈ l, i.valueLen ≤ 65531 := by
      intro i hi
      have hle := valueLen_add_le_of_mem (t := LinkInfo.nla) hi
      have hsum : LinkInfo.bufferLenSum l ≤ 65531 := hs _ hl
      rw [LinkInfo.bufferLenSum_eq] at hsum
      show (LinkInfo.nla i).valueLen ≤ 65531
      omega
    refine VecLinkInfo.comesBack_of_parse hparse hsl fun m' hm' b' hb' hd' hs' => ?_
    exact ih _ (by omega) hd' hs' (fun hp' => hport (.peer hl hm' hp')) rfl

/-- **The list of `IFLA_LINKINFO` that was decoded comes back**, when no
peer in it says anything of its own port. -/
theorem VecLinkInfo.parse_stable {p : Bytes} {l : List LinkInfo}
    (hport : ∀ m, .data (.veth (.peer m)) ∈ l → ¬ LinkMessage.HasPortSelf m)
    (h : parse p = .ok l) (hs : ∀ i ∈ l, i.valueLen ≤ 65531) :
    ∃ out, (emitNlas (l.map LinkInfo.nla)).run (zeros (nlasLen (l.map LinkInfo.nla))) = .ok out ∧
      parse out = .ok l :=
  comesBack_of_parse h hs fun m hm _ _ hd hs' => LinkMessage.decode_stable hd hs' (hport m hm)

end

section Stable

attribute [local instance] Reference.little

namespace LinkMessage

/-- Some of what is said of a loopback device. The padding of its name is
not zero, two kinds have flags that no emitter sets, and the last attribute
is not padded. -/
def loopbackBytes : Bytes :=
  [0, 0, 4, 3, 1, 0, 0, 0, 9, 0, 0, 0, 0, 0, 0, 0] ++
  [7, 0, 3, 0, 108, 111, 0, 170] ++ [8, 0, 4, 0x80, 220, 5, 0, 0] ++
  [16, 0, 26, 0x40, 12, 0, 10, 0x80, 8, 0, 1, 0, 0, 0, 0, 128] ++ [5, 0, 99, 0x40, 1]

def loopback : LinkMessage :=
  ⟨⟨.unspec, 1, .loopback, 9, 0⟩,
    [.ifName "lo", .mtu 1500, .afSpecUnspec [.inet6 [.flags 0x80000000]], .other ⟨0x4063, [1]⟩]⟩

/-- They are read, and what is written of them is read as the same. -/
theorem decode_stable_loopback : decode loopbackBytes = .ok loopback ∧
    ∃ out, (emit loopback).run (zeros (bufferLen loopback)) = .ok out ∧
      decode out = .ok loopback := by
  have hdec : decode loopbackBytes = .ok loopback := rfl
  have hnlas : nlas (loopbackBytes.drop 16) = [
      .ok ⟨loopbackBytes.drop 16⟩, .ok ⟨loopbackBytes.drop 24⟩, .ok ⟨loopbackBytes.drop 32⟩,
      .ok ⟨loopbackBytes.drop 48⟩] := rfl
  have hs : format.Sized loopback := by
    show ∀ a ∈ loopback.attributes, a.valueLen ≤ 65531
    decide
  refine ⟨hdec, decode_stable_of_plain ?_ hdec hs⟩
  intro nb hnb
  simp only [hnlas, List.mem_cons, Outcome.ok.injEq, List.not_mem_nil, or_false] at hnb
  rcases hnb with rfl | rfl | rfl | rfl <;> decide

end LinkMessage

/-- A virtual pair whose peer has an MTU. -/
def VecLinkInfo.pair : List LinkInfo :=
  [.infoKind .veth, .data (.veth (.peer ⟨⟨.unspec, 0, .netrom, 0, 0⟩, [.mtu 1500]⟩))]

/-- A peer inside link data comes back with it. -/
theorem VecLinkInfo.parse_stable_pair :
    ∃ out, (emitNlas (pair.map LinkInfo.nla)).run (zeros (nlasLen (pair.map LinkInfo.nla))) =
      .ok out ∧ parse out = .ok pair := by
  refine parse_stable (p := [9, 0, 1, 0, 118, 101, 116, 104, 0, 0, 0, 0] ++
    [32, 0, 2, 0, 28, 0, 1, 0] ++ zeros 16 ++ [8, 0, 4, 0, 220, 5, 0, 0]) (l := pair) ?_ rfl
      (by decide)
  rintro m hm hport
  simp [pair] at hm
  subst hm
  cases hport with
  | here h => simp at h
  | peer h => simp at h

end Stable

end NetlinkRoute
