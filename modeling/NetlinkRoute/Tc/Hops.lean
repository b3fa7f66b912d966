import NetlinkRoute.Tc.Message
import NetlinkRoute.Common.Written
/-!
# Traffic control — messages that are sent on and on

Options of a kind that is not known are kept as one attribute, the whole
of `TCA_OPTIONS`, and are written inside a second one. So a message is not
only changed when it is sent on: it is changed at every hop, and each hop
adds a header to each of these options (`TcMessage.hops_received`).
-/

namespace NetlinkRoute

open PacketUtils Emitter

/-! ## Attributes -/

namespace TcAttribute

variable {a : TcAttribute} {kind : String} {as : List TcAttribute}

/-- Options that are kept as one attribute. -/
def keepsOptions : TcAttribute → Bool
  | .options [.other _] => true
  | _ => false

/-- Options are kept as bytes where they hold one unnamed item. -/
theorem keepsOptions_iff : a.keepsOptions = true ↔ ∃ d, a = .options [.other d] := by
  unfold keepsOptions
  split
  · simp
  · next h => simpa using h

section

variable [PacketUtils]

/-- Any other attribute is received as it was sent. -/
theorem received_of_not_keeps (h : a.keepsOptions = false) : a.received = a := by
  cases a with
  | options opts =>
    refine congrArg TcAttribute.options ?_
    unfold VecTcOption.received
    split
    · next d => cases h
    · rfl
  | _ => rfl

/-- They are received as bytes again. -/
theorem keepsOptions_received (a : TcAttribute) : a.received.keepsOptions = a.keepsOptions := by
  cases hk : a.keepsOptions with
  | false => rw [received_of_not_keeps hk, hk]
  | true =>
    obtain ⟨d, rfl⟩ := keepsOptions_iff.1 hk
    rfl

/-- What is received fits where what was sent did. -/
theorem Fits.received (h : a.Fits kind) : a.received.Fits kind := by
  cases hk : a.keepsOptions with
  | false => rwa [received_of_not_keeps hk]
  | true =>
    obtain ⟨d, rfl⟩ := keepsOptions_iff.1 hk
    have hopts : VecTcOption.Fits kind [.other d] := h
    show VecTcOption.Fits kind [.other ⟨TCA_OPTIONS, encodeNla d.kind d.value⟩]
    rw [VecTcOption.Fits] at hopts ⊢
    split at hopts
    · next hl => exact absurd hl (hopts (.other d) (List.mem_singleton_self _))
    · next hl =>
      rw [if_neg hl]
      exact ⟨_, rfl⟩

/-- What is received follows the kinds as what was sent. -/
theorem threaded_received (h : Threaded Fits nextKind kind as) :
    Threaded Fits nextKind kind (as.map TcAttribute.received) := by
  induction as generalizing kind with
  | nil => trivial
  | cons a as ih =>
    refine ⟨h.1.received, ?_⟩
    rw [nextKind_received]
    exact ih h.2

/-- **Received options are a header longer** than they were when they were
sent. -/
theorem valueLen_received (a : TcAttribute) :
    a.received.valueLen = a.valueLen + if a.keepsOptions then 4 else 0 := by
  cases hk : a.keepsOptions with
  | false => rw [received_of_not_keeps hk]; rfl
  | true =>
    obtain ⟨d, rfl⟩ := keepsOptions_iff.1 hk
    have hone : ∀ d : DefaultNla, (TcAttribute.options [.other d]).valueLen =
        nlaAlign d.value.length + 4 := fun d => by
      show nlasLen [TcOption.nla (.other d)] = _
      rw [nlasLen_cons]
      rfl
    have hlen : (encodeNla d.kind d.value).length = nlaAlign d.value.length + 4 :=
      length_encodeNla
    have hdvd : nlaAlign (nlaAlign d.value.length + 4) = nlaAlign d.value.length + 4 := by
      unfold nlaAlign
      omega
    show (TcAttribute.options [.other ⟨TCA_OPTIONS, encodeNla d.kind d.value⟩]).valueLen = _
    rw [hone, hone, hlen, hdvd]
    rfl

end

end TcAttribute

/-! ## Messages -/

namespace TcMessage

section

variable [PacketUtils] {m : TcMessage} {b : Bytes}

/-- What is received of a message. -/
def received (m : TcMessage) : TcMessage :=
  ⟨m.header, m.attributes.map TcAttribute.received⟩

/-- What the other side gets of it. -/
def hop (m : TcMessage) : Outcome TcMessage := passOn emit bufferLen decode m

/-- How many options are kept as one attribute. -/
def keptOptions (m : TcMessage) : ℕ := m.attributes.countP TcAttribute.keepsOptions

/-- What a message that was decoded has, and keeps. -/
def Fitting (m : TcMessage) : Prop :=
  AddressFamily.codec.Canonical m.header.family ∧
    Threaded TcAttribute.Fits TcAttribute.nextKind "" m.attributes

/-- A fitting message is received as a fitting one. -/
theorem fitting_received (h : Fitting m) : Fitting m.received :=
  ⟨h.1, TcAttribute.threaded_received h.2⟩

/-- One hop. -/
theorem hop_eq_received (h : Fitting m) (hs : format.Sized m) : hop m = .ok m.received :=
  passOn_eq_ok_iff.2 (exists_decode_received h.1 h.2 hs)

/-- It comes back exactly where it is received as it is. -/
theorem comesBack_iff_of_fitting (h : Fitting m) (hs : format.Sized m) :
    ComesBack m ↔ m.received = m := by
  have hiff : ComesBack m ↔ hop m = .ok m := passOn_eq_ok_iff.symm
  rw [hiff, hop_eq_received h hs, Outcome.ok.injEq]

/-- Receiving keeps the number of options kept as bytes. -/
theorem keptOptions_received : keptOptions m.received = keptOptions m := by
  rw [keptOptions, keptOptions, received, List.countP_map]
  exact List.countP_congr fun a _ => iff_of_eq (congrArg (· = true) a.keepsOptions_received)

/-- The message grows by a header for each of these options. -/
theorem bufferLen_received : bufferLen m.received = bufferLen m + 4 * keptOptions m := by
  have hbuf : ∀ m : TcMessage, bufferLen m = 20 + nlasLen (m.attributes.map TcAttribute.nla) :=
    fun _ => rfl
  have hgrown : nlasLen (m.attributes.map (TcAttribute.nla ∘ TcAttribute.received)) =
      nlasLen (m.attributes.map TcAttribute.nla) +
        4 * (m.attributes.map fun a => if a.keepsOptions then 1 else 0).sum := by
    refine nlasLen_grown fun a _ => ?_
    show a.received.valueLen = a.valueLen + _
    rw [a.valueLen_received]
    split <;> rfl
  have hcount : ∀ as : List TcAttribute,
      (as.map fun a => if a.keepsOptions then 1 else 0).sum =
        as.countP TcAttribute.keepsOptions := by
    intro as
    induction as with
    | nil => rfl
    | cons a as ih => rw [List.map_cons, List.sum_cons, ih, List.countP_cons, Nat.add_comm]
  rw [hbuf, hbuf, received, List.map_map, hgrown, hcount, keptOptions, Nat.add_assoc]

/-- It is received as it was sent when it has none. -/
theorem received_eq_iff : m.received = m ↔ keptOptions m = 0 := by
  constructor
  · intro heq
    have hlen := bufferLen_received (m := m)
    rw [heq] at hlen
    omega
  · intro hz
    have hnone : ∀ a ∈ m.attributes, a.received = a := fun a ha =>
      TcAttribute.received_of_not_keeps (by simpa using List.countP_eq_zero.1 hz a ha)
    rw [received, List.map_congr_left hnone, List.map_id']

/-! ## Hop by hop -/

/-- After any number of hops the message is fitting. -/
theorem fitting_iterate (h : Fitting m) (n : ℕ) : Fitting (received^[n] m) := by
  induction n with
  | zero => exact h
  | succ n ih =>
    rw [Function.iterate_succ_apply']
    exact fitting_received ih

/-- It keeps as many options as bytes. -/
theorem keptOptions_iterate (n : ℕ) : keptOptions (received^[n] m) = keptOptions m := by
  induction n with
  | zero => rfl
  | succ n ih => rw [Function.iterate_succ_apply', keptOptions_received, ih]

/-- It has grown by four bytes for each of them on each hop. -/
theorem bufferLen_iterate (n : ℕ) :
    bufferLen (received^[n] m) = bufferLen m + 4 * n * keptOptions m := by
  induction n with
  | zero => simp
  | succ n ih =>
    rw [Function.iterate_succ_apply', bufferLen_received, ih, keptOptions_iterate,
      Nat.mul_succ, Nat.add_mul, Nat.add_assoc]

/-- An attribute grows by one header a hop at most. -/
theorem room_received {n : ℕ} (h : ∀ a ∈ m.attributes, a.valueLen + 4 * (n + 1) ≤ 65531) :
    ∀ a ∈ m.received.attributes, a.valueLen + 4 * n ≤ 65531 := by
  simp only [received, List.forall_mem_map]
  intro a ha
  have hlen := a.valueLen_received
  have hle := h a ha
  split at hlen <;> omega

/-- Room for the growth is room for every hop. -/
theorem sized_iterate {n : ℕ} (h : ∀ a ∈ m.attributes, a.valueLen + 4 * n ≤ 65531) :
    format.Sized (received^[n] m) := by
  induction n generalizing m with
  | zero => exact h
  | succ n ih =>
    rw [Function.iterate_succ_apply]
    exact ih (room_received h)

/-- **Hop by hop**: over `n` hops a decoded message arrives with what it
keeps of options received `n` times, and so longer by `n` headers for each
of them; it arrives as it was exactly when it has none. -/
theorem hops_received (n : ℕ) (h : decode b = .ok m)
    (hs : ∀ a ∈ m.attributes, a.valueLen + 4 * n ≤ 65531) :
    hops hop n m = .ok (received^[n] m) ∧
      bufferLen (received^[n] m) = bufferLen m + 4 * n * keptOptions m ∧
      (0 < n → (received^[n] m = m ↔ keptOptions m = 0)) := by
  have hf : Fitting m := decode_fits h
  refine ⟨?_, bufferLen_iterate n, fun hn => ?_⟩
  · refine hops_of_step (P := fun m => Fitting m ∧ format.Sized m)
      (fun m hm => hop_eq_received hm.1 hm.2) fun k hk => ⟨fitting_iterate hf k, sized_iterate ?_⟩
    intro a ha
    have hle := hs a ha
    omega
  · constructor
    · intro heq
      have hlen := bufferLen_iterate (m := m) n
      rw [heq] at hlen
      have hz : 4 * n * keptOptions m = 0 := by omega
      exact (Nat.mul_eq_zero.1 hz).resolve_left (by omega)
    · exact fun hz => Function.iterate_fixed (received_eq_iff.2 hz) n

end

end TcMessage

/-! ## On a little-endian host -/

section Growth

attribute [local instance] Reference.little

namespace TcMessage

/-- Two options of a discipline of kind `htb`: after a hundred hops the
message is eight hundred bytes longer. -/
theorem htb_hops : (∃ b, decode b = .ok htb) ∧ bufferLen htb = 52 ∧
    ∃ m, hops hop 100 htb = .ok m ∧ bufferLen m = 852 ∧ m ≠ htb := by
  have hs : ∀ a ∈ htb.attributes, a.valueLen + 4 * 100 ≤ 65531 := by decide
  obtain ⟨hhops, hlen, hsame⟩ := hops_received 100 decode_htb hs
  have hbytes : bufferLen htb = 52 := by decide
  have hkept : keptOptions htb = 2 := by decide
  rw [hbytes, hkept] at hlen
  refine ⟨⟨_, decode_htb⟩, hbytes, _, hhops, hlen, fun heq => ?_⟩
  have hz := (hsame (by omega)).1 heq
  omega

end TcMessage

end Growth

end NetlinkRoute
