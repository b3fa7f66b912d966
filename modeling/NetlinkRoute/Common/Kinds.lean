import NetlinkRoute.Common.Framed
import NetlinkRoute.Common.Sequence
/-!
# Kinds — one attribute in, one attribute out

A parser keeps the kind of an attribute when what it makes of it will be
written under that kind (`KeepsKind`). A decoder whose parser does makes
one thing of every attribute, in their order, and of each the thing that
its kind names (`MessageFormat.Sequential.kinds_of_decode`). So a program
that reads a message and writes it again loses none of the attributes, and
invents none (`MessageFormat.Sequential.sameKinds`).
-/

namespace NetlinkRoute

open PacketUtils

/-- The kind word is of this kind, whether the attribute is marked as a
list or not. -/
def IsKind (kind word : UInt16) : Prop := word = kind ∨ word = kind ||| NLA_F_NESTED

/-- The flag is outside the mask. -/
theorem IsKind.mask_eq {kind word w : UInt16} (h : IsKind kind word)
    (hk : w &&& NLA_TYPE_MASK = kind) : word &&& NLA_TYPE_MASK = kind := by
  have hsame : kind &&& NLA_TYPE_MASK = kind := by
    rw [← hk, UInt16.and_assoc, UInt16.and_self]
  rcases h with rfl | rfl
  · exact hsame
  · have hflag : NLA_F_NESTED &&& NLA_TYPE_MASK = 0 := by decide
    rw [← UInt16.toBitVec_inj, UInt16.toBitVec_and, UInt16.toBitVec_or,
      BitVec.and_or_distrib_right, ← UInt16.toBitVec_and, ← UInt16.toBitVec_and, hsame, hflag]
    exact BitVec.or_zero

section

variable [PacketUtils] {α σ η : Type} {nla : α → Nla} {p b : Bytes}

/-- What is made of an attribute is of the kind of the attribute. -/
def KeepsKind (nla : α → Nla) (f : NlaBuffer → Outcome α) : Prop :=
  ∀ nb : NlaBuffer, NlaValid nb.buffer →
    (f nb).Holds fun a => (nla a).kind &&& NLA_TYPE_MASK = wireKind nb

/-- The parser of an attribute keeps its kind when each arm makes something
of the kind of the arm, or hands the attribute through as the default
does. -/
theorem KeepsKind.of_select {arms : NlaBuffer → Bytes → UInt16 → List (UInt16 × Outcome α)}
    {dflt : NlaBuffer → Bytes → UInt16 → Outcome α}
    (harms : ∀ nb : NlaBuffer, NlaValid nb.buffer →
      ∀ arm ∈ arms nb (nlaValue nb.buffer) (wireKind nb),
        arm.2.Holds fun a => IsKind arm.1 (nla a).kind ∨ (nla a).kind = nlaWord nb.buffer)
    (hd : ∀ nb : NlaBuffer, NlaValid nb.buffer → (dflt nb (nlaValue nb.buffer) (wireKind nb)).Holds
      fun a => (nla a).kind &&& NLA_TYPE_MASK = wireKind nb) :
    KeepsKind nla fun nb => (do
      let payload ← PacketUtils.value nb
      let kind ← PacketUtils.kind nb
      select kind (arms nb payload kind) (dflt nb payload kind)) := by
  intro nb hv
  dsimp only
  rw [hv.carries.bind]
  refine select_ind (P := Outcome.Holds fun a => (nla a).kind &&& NLA_TYPE_MASK = wireKind nb)
    (fun arm ha hk => ?_) fun _ => hd nb hv
  refine (harms nb hv arm ha).mono fun a h => ?_
  rcases h with h | h
  · exact (h.mask_eq hk).trans hk.symm
  · rw [h]

/-- **The kinds of what a loop collects are those of the attributes that it
read**, in their order. -/
theorem map_kind_of_forEachFrom {g : σ → NlaBuffer → Outcome (σ × α)} {s : σ} {as : List α}
    (hg : ∀ s, KeepsKind (fun r : σ × α => nla r.2) (g s))
    (h : forEachFrom (fun s nla => do g s (← nla)) s (nlas p) = .ok as) :
    as.map (fun a => (nla a).kind &&& NLA_TYPE_MASK) = (carried p).map kindOf := by
  induction p using nlas_ind generalizing s as with
  | hnil =>
    rw [nlas_nil] at h
    cases h
    simp
  | hvalid p hv ih =>
    rw [nlas_of_valid hv, forEachFrom] at h
    obtain ⟨⟨s', a⟩, hstep, h⟩ := (Outcome.bind_eq_ok _ _).1 h
    obtain ⟨as', has, heq⟩ := (Outcome.bind_eq_ok _ _).1 h
    cases heq
    have hkind : (nla a).kind &&& NLA_TYPE_MASK = nlaWord p &&& NLA_TYPE_MASK :=
      hg s ⟨p⟩ hv _ hstep
    rw [carried_of_valid hv, List.map_cons, List.map_cons, ih has, hkind]
  | hbad p hp hv =>
    obtain ⟨e, he⟩ := nlas_of_not_valid hp hv
    rw [he] at h
    cases h

/-- The same for a loop without a state. -/
theorem map_kind_of_parseEach {f : NlaBuffer → Outcome α} {as : List α} (hf : KeepsKind nla f)
    (h : parseEach f p = .ok as) :
    as.map (fun a => (nla a).kind &&& NLA_TYPE_MASK) = (carried p).map kindOf := by
  rw [parseEach_eq_forEachFrom] at h
  exact map_kind_of_forEachFrom (fun _ nb hv => Outcome.holds_map.2 (hf nb hv)) h

/-- Behind so many bytes both strings are attributes up to the end, and
these are of the same kinds in the same order. -/
structure SameKinds (k : ℕ) (b b' : Bytes) : Prop where
  intact : Intact (b.drop k)
  intact' : Intact (b'.drop k)
  kinds_eq : (carried (b'.drop k)).map kindOf = (carried (b.drop k)).map kindOf

/-- What was read attribute by attribute, and is written so. -/
theorem sameKinds_of_framed {as : List α} {k : ℕ} {b' : Bytes} (hi : Intact (b.drop k))
    (hk : as.map (fun a => (nla a).kind &&& NLA_TYPE_MASK) = (carried (b.drop k)).map kindOf)
    (h : Framed k (as.map fun a => (nla a).head) b') : SameKinds k b b' := by
  refine ⟨hi, h.intact, ?_⟩
  have hkinds := congrArg (List.map fun head : UInt16 × ℕ => head.1 &&& NLA_TYPE_MASK) h.heads_eq
  rw [List.map_map, List.map_map] at hkinds
  exact hkinds.trans hk

/-- Where there is nothing, nothing is written. -/
theorem sameKinds_of_length_le {k : ℕ} {b' : Bytes} (hle : b.length ≤ k) (h : Framed k [] b') :
    SameKinds k b b' := by
  have hnil : b.drop k = [] := List.drop_eq_nil_iff.2 hle
  refine ⟨?_, h.intact, ?_⟩
  · rw [hnil, Intact, nlas_nil]
    exact fun o ho => absurd ho List.not_mem_nil
  · rw [hnil, carried_nil, List.map_eq_nil_iff.1 h.heads_eq]

namespace MessageFormat

variable {F : MessageFormat η α} {m : Message η α} {buf out : Bytes}

/-- **Every attribute of a message becomes one of what is made of it**, in
their order. -/
theorem Sequential.kinds_of_decode {start : η → σ} {g : η → σ → NlaBuffer → Outcome (σ × α)}
    (hF : F.Sequential start g) (hg : ∀ h s, KeepsKind (fun r : σ × α => F.nla r.2) (g h s))
    (h : F.decode b = .ok m) : Intact (b.drop F.header.len) ∧
      m.attributes.map (fun a => (F.nla a).kind &&& NLA_TYPE_MASK) =
        (carried (b.drop F.header.len)).map kindOf := by
  obtain ⟨-, -, -, has⟩ := F.decode_eq_ok h
  rw [hF.attributes] at has
  exact ⟨intact_of_forEachFrom has, map_kind_of_forEachFrom (hg m.header) has⟩

/-- **Written again, it is the same attributes in the same order.** -/
theorem Sequential.sameKinds {start : η → σ} {g : η → σ → NlaBuffer → Outcome (σ × α)}
    (hF : F.Sequential start g) (hg : ∀ h s, KeepsKind (fun r : σ × α => F.nla r.2) (g h s))
    (h : F.decode b = .ok m) (hs : F.Sized m) (hbuf : buf.length = F.bufferLen m)
    (hout : (F.emit m).run buf = .ok out) : SameKinds F.header.len b out := by
  obtain ⟨hi, hk⟩ := hF.kinds_of_decode hg h
  exact sameKinds_of_framed hi hk (F.framed hout hbuf hs)

/-- A decoder that keeps the kind of each attribute is emitted with the
kinds it was given. -/
theorem Each.sameKinds {f : η → NlaBuffer → Outcome α} (hF : F.Each f)
    (hf : ∀ h, KeepsKind F.nla (f h)) (h : F.decode b = .ok m) (hs : F.Sized m)
    (hbuf : buf.length = F.bufferLen m) (hout : (F.emit m).run buf = .ok out) :
    SameKinds F.header.len b out :=
  hF.sequential.sameKinds (fun h _ nb hv => Outcome.holds_map.2 (hf h nb hv)) h hs hbuf hout

end MessageFormat

end

end NetlinkRoute
