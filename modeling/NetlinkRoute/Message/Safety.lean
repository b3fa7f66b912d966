import NetlinkRoute.Message.Accepts
import NetlinkRoute.Link.Defects
import NetlinkRoute.Neighbour.Message
import NetlinkRoute.Route.Safety
import NetlinkRoute.Tc.Safety
/-!
# Messages of all families — every payload that the parser panics on

The parser panics on what the decoder of a family panics on, under the
message types of that family, and on nothing else: its own indexing is in
bounds, and the arms it takes for unreachable are (`deserialize_eq_panic_iff`).
So under the type of any other family, and under a type that is not known,
every payload comes back as a message or as an error.
-/

namespace NetlinkRoute

open PacketUtils

section

variable [PacketUtils]

/-- Decoding a route panics when it gets to a defective attribute. -/
theorem RouteMessage.decode_eq_panic_iff {b : Bytes} : decode b = .panic ↔
    ∃ nb, NlaReached (RouteAttribute.parseWithParam (wireContext b))
      (b.drop RouteHeader.bufferLen) nb ∧ RouteAttribute.Defect (wireContext b) nb := by
  rcases Nat.lt_or_ge b.length RouteHeader.bufferLen with hlt | hge
  · obtain ⟨e, he⟩ := checkedBuffer_of_lt (s := "RouteMessageBuffer") hlt
    refine iff_of_false (by simp [decode, he]) ?_
    rintro ⟨nb, hr, -⟩
    have hle := le_length_of_mem_nlas_drop hr.mem
    omega
  · obtain ⟨header, hh, hf, hk⟩ := parseHeader_eq hge
    have hctx : (⟨header.addressFamily, header.kind,
        encapTypeOfNum (firstEncapType (b.drop RouteHeader.bufferLen))⟩ : RouteContext) =
        wireContext b := by
      rw [hf, hk]
      rfl
    rw [decode, checkedBuffer_of_le hge, Outcome.ok_bind, parse, hh, Outcome.context_ok,
      Outcome.ok_bind, Outcome.bind_eq_panic, Outcome.context_eq_panic, parseAttributes,
      sliceFrom_ok hge, Outcome.ok_bind, findEncapType_nlas, Outcome.ok_bind, hctx,
      forEach_bind_eq_panic_iff]
    simp only [reduceCtorEq, and_false, exists_false, or_false]
    exact exists_congr fun nb => and_congr_right fun hr =>
      RouteAttribute.parseWithParam_eq_panic_iff (valid_of_mem_nlas hr.mem)

namespace RouteNetlinkMessage

variable {b : Bytes} {t : UInt16}

/-! ## One arm -/

section Arms

variable {μ : Type} {buffer err : String} {len : ℕ} {parse : Bytes → Outcome μ}
  {arms : μ → List (UInt16 × RouteNetlinkMessage)}

omit [PacketUtils] in
/-- An inner `match` that lists the type takes one of its arms. -/
theorem exists_variantOf {arms : List (UInt16 × RouteNetlinkMessage)}
    (h : t ∈ arms.map Prod.fst) : ∃ m, variantOf t arms = .ok m := by
  have hkeys : (arms.map fun arm => (arm.1, Outcome.ok arm.2)).map Prod.fst =
      arms.map Prod.fst := by
    rw [List.map_map]
    rfl
  rcases select_cases t (arms.map fun arm => (arm.1, Outcome.ok arm.2)) .panic with
    ⟨arm, ha, -, hs⟩ | ⟨hn, -⟩
  · obtain ⟨arm, -, rfl⟩ := List.mem_map.1 ha
    exact ⟨arm.2, hs⟩
  · rw [hkeys] at hn
    exact absurd h hn

omit [PacketUtils] in
/-- The last arm of an inner `match` is not reached. -/
theorem variantOf_ne_panic {arms : List (UInt16 × RouteNetlinkMessage)}
    (h : t ∈ arms.map Prod.fst) : variantOf t arms ≠ .panic := by
  obtain ⟨m, hm⟩ := exists_variantOf h
  simp [hm]

/-- The context of the dispatcher keeps a panic. -/
theorem parseChecked_eq_panic_iff : parseChecked buffer len parse err b = .panic ↔
    (checkedBuffer buffer len b >>= parse) = .panic := by
  simp [parseChecked, Outcome.bind_eq_panic]

/-- So does whatever follows it. -/
theorem parseChecked_bind_of_panic {f : μ → Outcome RouteNetlinkMessage}
    (h : (checkedBuffer buffer len b >>= parse) = .panic) :
    (parseChecked buffer len parse err b >>= f) = .panic := by
  rw [parseChecked_eq_panic_iff.2 h, Outcome.panic_bind]

/-- For a listed type the dispatch adds no panic. -/
theorem parseChecked_bind_eq_panic_iff (ht : ∀ msg, t ∈ (arms msg).map Prod.fst) :
    (parseChecked buffer len parse err b >>= fun msg => variantOf t (arms msg)) = .panic ↔
      (checkedBuffer buffer len b >>= parse) = .panic := by
  simp [Outcome.bind_eq_panic, parseChecked_eq_panic_iff, variantOf_ne_panic (ht _)]

/-- A buffer that holds the header is not taken for a request. -/
theorem parseOrShort_bind_of_panic {short : Bool} {request : AddressFamily → μ}
    {f : μ → Outcome RouteNetlinkMessage} (h : (checkedBuffer buffer len b >>= parse) = .panic) :
    (parseOrShort buffer len parse err short request b >>= f) = .panic := by
  rcases Nat.lt_or_ge b.length len with hlt | hle
  · obtain ⟨e, he⟩ := checkedBuffer_of_lt (s := buffer) hlt
    rw [he] at h
    cases h
  · rw [checkedBuffer_of_le hle, Outcome.ok_bind] at h
    rw [parseOrShort, checkedBuffer_of_le hle]
    simp only [h, Outcome.context_panic, Outcome.panic_bind]

/-- A request holds the byte that is looked at. -/
theorem parseOrShort_bind_eq_panic_iff {short : Bool} {request : AddressFamily → μ}
    (ht : ∀ msg, t ∈ (arms msg).map Prod.fst) (hs : short = true → b ≠ []) :
    (parseOrShort buffer len parse err short request b >>= fun msg =>
      variantOf t (arms msg)) = .panic ↔ (checkedBuffer buffer len b >>= parse) = .panic := by
  refine ⟨fun h => ?_, parseOrShort_bind_of_panic⟩
  have hvariant : ∀ msg, variantOf t (arms msg) ≠ .panic := fun msg => variantOf_ne_panic (ht msg)
  rcases Nat.lt_or_ge b.length len with hlt | hle
  · obtain ⟨e, he⟩ := checkedBuffer_of_lt (s := buffer) hlt
    rw [parseOrShort, he] at h
    cases short with
    | false => simp at h
    | true =>
      obtain ⟨family, rest, rfl⟩ := List.exists_cons_of_ne_nil (hs rfl)
      simp [getU8_of_lt, hvariant] at h
  · rw [parseOrShort, checkedBuffer_of_le hle] at h
    rw [checkedBuffer_of_le hle]
    simpa [Outcome.bind_eq_panic, hvariant] using h

end Arms

/-! ## All of them -/

/-- **What is wrong with a payload that the parser panics on.** -/
inductive Crashes : UInt16 → Bytes → Prop
  /-- A link. -/
  | link {t : UInt16} {b : Bytes} (ht : t ∈ [RTM_NEWLINK, RTM_GETLINK, RTM_DELLINK, RTM_SETLINK])
      (h : LinkMessage.Broken b) : Crashes t b
  /-- Life times of an address that are cut short. -/
  | address {t : UInt16} {b : Bytes} (ht : t ∈ [RTM_NEWADDR, RTM_GETADDR, RTM_DELADDR])
      (h : ReachesShort AddressAttribute.parse IFA_CACHEINFO 16 (b.drop 8)) : Crashes t b
  /-- Those of a prefix. -/
  | prefixes {t : UInt16} {b : Bytes} (ht : t = RTM_NEWPREFIX)
      (h : ReachesShort PrefixAttribute.parse PREFIX_CACHEINFO 8 (b.drop 12)) : Crashes t b
  /-- A realm of a rule that is cut short. -/
  | rule {t : UInt16} {b : Bytes} (ht : t ∈ [RTM_NEWRULE, RTM_GETRULE, RTM_DELRULE])
      (h : ReachesShort RuleAttribute.parse FRA_FLOW 4 (b.drop 12)) : Crashes t b
  /-- A route. -/
  | route {t : UInt16} {b : Bytes} {nb : NlaBuffer}
      (ht : t ∈ [RTM_NEWROUTE, RTM_GETROUTE, RTM_DELROUTE])
      (hr : NlaReached (RouteAttribute.parseWithParam (RouteMessage.wireContext b))
        (b.drop RouteHeader.bufferLen) nb)
      (h : RouteAttribute.Defect (RouteMessage.wireContext b) nb) : Crashes t b
  /-- Statistics of a discipline or filter, or the keys of a selector. -/
  | tc {t : UInt16} {b : Bytes} {kind : String} {nb : NlaBuffer}
      (ht : t ∈ [RTM_NEWQDISC, RTM_DELQDISC, RTM_GETQDISC, RTM_NEWTCLASS, RTM_DELTCLASS,
        RTM_GETTCLASS, RTM_NEWTFILTER, RTM_DELTFILTER, RTM_GETTFILTER, RTM_NEWCHAIN,
        RTM_DELCHAIN, RTM_GETCHAIN])
      (hr : TcMessage.AttributeReached b kind nb)
      (h : TcAttribute.Short kind nb ∨ TcAttribute.ShortSelector kind nb) : Crashes t b
  /-- Statistics of an action. -/
  | tcAction {t : UInt16} {b : Bytes} {nb : NlaBuffer}
      (ht : t ∈ [RTM_NEWACTION, RTM_DELACTION, RTM_GETACTION])
      (hr : TcActionMessage.AttributeReached b nb) (h : TcActionMessageAttribute.Short nb) :
      Crashes t b

/-- What is parsed with a panic has one of these defects. -/
theorem crashes_of_panic (h : deserialize t b = .panic) : Crashes t b := by
  have hne : ∀ {n : ℕ} {p : Prop} [Decidable p], decide (b.length = n + 1 ∧ p) = true → b ≠ [] := by
    intro n p _ hs hnil
    have hlen := (of_decide_eq_true hs).1
    rw [hnil] at hlen
    cases hlen
  revert h
  refine selectAny_ind (P := fun o => o = Outcome.panic → Crashes t b) (fun arm ha ht => ?_)
    (by simp)
  simp only [List.mem_cons, List.not_mem_nil, or_false] at ha
  rcases ha with rfl | rfl | rfl | rfl | rfl | rfl | rfl | rfl | rfl | rfl | rfl | rfl | rfl
  case inl =>
    intro hp
    have hdec := (parseOrShort_bind_eq_panic_iff
      (fun _ => by simpa [or_comm, or_left_comm, or_assoc] using ht) hne).1 hp
    exact .link ht (LinkMessage.decode_eq_panic_iff_broken.1 (LinkMessage.decode_eq.trans hdec))
  case inr.inl =>
    intro hp
    have hdec := (parseOrShort_bind_eq_panic_iff
      (fun _ => by simpa [or_comm, or_left_comm, or_assoc] using ht) hne).1 hp
    exact .address ht (AddressMessage.decode_eq_panic_iff.1 hdec)
  case inr.inr.inr.inr.inl =>
    intro hp
    have hdec := (parseOrShort_bind_eq_panic_iff
      (fun _ => by simpa [or_comm, or_left_comm, or_assoc] using ht)
      fun hs hnil => by simp [hnil] at hs).1 hp
    obtain ⟨nb, hr, h⟩ := RouteMessage.decode_eq_panic_iff.1 hdec
    exact .route ht hr h
  case inr.inr.inr.inr.inr.inl =>
    intro hp
    have hdec : PrefixMessage.format.decode b = .panic := by
      rw [Outcome.map_eq_panic] at hp
      exact parseChecked_eq_panic_iff.1 hp
    exact .prefixes (List.mem_singleton.1 ht) (PrefixMessage.decode_eq_panic_iff.1 hdec)
  case inr.inr.inr.inr.inr.inr.inl =>
    intro hp
    have hdec := (parseChecked_bind_eq_panic_iff
      (fun _ => by simpa [or_comm, or_left_comm, or_assoc] using ht)).1 hp
    exact .rule ht (RuleMessage.decode_eq_panic_iff.1 hdec)
  case inr.inr.inr.inr.inr.inr.inr.inl =>
    intro hp
    have hdec := (parseChecked_bind_eq_panic_iff (fun _ => ht)).1 hp
    rcases TcMessage.decode_eq_panic_iff.1 hdec with ⟨kind, nb, hr, h⟩ | ⟨kind, nb, hr, h⟩
    · exact .tc ht hr (.inl h)
    · exact .tc ht hr (.inr h)
  case inr.inr.inr.inr.inr.inr.inr.inr.inl =>
    intro hp
    have hdec := (parseChecked_bind_eq_panic_iff (fun _ => ht)).1 hp
    obtain ⟨nb, hr, h⟩ := TcActionMessage.decode_eq_panic_iff.1 hdec
    exact .tcAction ht hr h
  -- the other families are decoded without a panic
  all_goals
    intro hp
    have hdec := (parseChecked_bind_eq_panic_iff
      (fun _ => by simpa [or_comm, or_left_comm, or_assoc] using ht)).1 hp
    refine absurd hdec ?_
  · exact NeighbourMessage.decode_ne_panic
  · exact NeighbourTableMessage.decode_ne_panic
  · exact NsidMessage.decode_ne_panic
  · exact NexthopMessage.decode_ne_panic
  · exact MdbMessage.decode_ne_panic
  · exact TunnelMessage.decode_ne_panic

/-- **The parser panics on these payloads and on no other.** -/
theorem deserialize_eq_panic_iff : deserialize t b = .panic ↔ Crashes t b := by
  refine ⟨crashes_of_panic, fun h => ?_⟩
  cases h with
  | link ht h =>
    have hdec : LinkMessage.format.decode b = .panic :=
      LinkMessage.decode_eq.symm.trans (LinkMessage.decode_eq_panic_iff_broken.2 h)
    simp only [List.mem_cons, List.not_mem_nil, or_false] at ht
    rcases ht with rfl | rfl | rfl | rfl
    all_goals exact (selectAny_of_find rfl).trans (parseOrShort_bind_of_panic hdec)
  | address ht h =>
    have hdec := AddressMessage.decode_eq_panic_iff.2 h
    simp only [List.mem_cons, List.not_mem_nil, or_false] at ht
    rcases ht with rfl | rfl | rfl
    all_goals exact (selectAny_of_find rfl).trans (parseOrShort_bind_of_panic hdec)
  | prefixes ht h =>
    have hdec := PrefixMessage.decode_eq_panic_iff.2 h
    subst ht
    refine (selectAny_of_find rfl).trans ((Outcome.map_eq_panic _).2 ?_)
    exact parseChecked_eq_panic_iff.2 hdec
  | rule ht h =>
    have hdec := RuleMessage.decode_eq_panic_iff.2 h
    simp only [List.mem_cons, List.not_mem_nil, or_false] at ht
    rcases ht with rfl | rfl | rfl
    all_goals exact (selectAny_of_find rfl).trans (parseChecked_bind_of_panic hdec)
  | route ht hr h =>
    have hdec := RouteMessage.decode_eq_panic_iff.2 ⟨_, hr, h⟩
    simp only [List.mem_cons, List.not_mem_nil, or_false] at ht
    rcases ht with rfl | rfl | rfl
    all_goals exact (selectAny_of_find rfl).trans (parseOrShort_bind_of_panic hdec)
  | @tc kind nb ht hr h =>
    have hdec : TcMessage.decode b = .panic := by
      rw [TcMessage.decode_eq_panic_iff]
      exact h.imp (fun h => ⟨kind, nb, hr, h⟩) fun h => ⟨kind, nb, hr, h⟩
    simp only [List.mem_cons, List.not_mem_nil, or_false] at ht
    rcases ht with rfl | rfl | rfl | rfl | rfl | rfl | rfl | rfl | rfl | rfl | rfl | rfl
    all_goals exact (selectAny_of_find rfl).trans (parseChecked_bind_of_panic hdec)
  | tcAction ht hr h =>
    have hdec := TcActionMessage.decode_eq_panic_iff.2 ⟨_, hr, h⟩
    simp only [List.mem_cons, List.not_mem_nil, or_false] at ht
    rcases ht with rfl | rfl | rfl
    all_goals exact (selectAny_of_find rfl).trans (parseChecked_bind_of_panic hdec)

end RouteNetlinkMessage

end

end NetlinkRoute
