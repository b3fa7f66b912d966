import NetlinkRoute.Message.Dispatch
/-!
# Messages of all families — what the parser accepts

A statement about messages of every type is one about each of the thirteen
families (`Families`), read off the message by `inFamily`. In these terms the
parser is one line: under a message type it accepts the bytes that the
decoder of the family does, and for three types the first bytes of a
request, and nothing else (`deserialize_eq_ok_iff`).
-/

namespace NetlinkRoute

open PacketUtils

/-- Something for the messages of each family. -/
structure Families (β : Type) where
  link : LinkMessage → β
  address : AddressMessage → β
  neighbour : NeighbourMessage → β
  neighbourTable : NeighbourTableMessage → β
  route : RouteMessage → β
  prefixes : PrefixMessage → β
  tc : TcMessage → β
  tcAction : TcActionMessage → β
  mdb : MdbMessage → β
  tunnel : TunnelMessage → β
  nexthop : NexthopMessage → β
  nsid : NsidMessage → β
  rule : RuleMessage → β

/-- Two tables, entry by entry. -/
def Families.map₂ {β γ δ : Type} (f : β → γ → δ) (F : Families β) (G : Families γ) :
    Families δ where
  link m := f (F.link m) (G.link m)
  address m := f (F.address m) (G.address m)
  neighbour m := f (F.neighbour m) (G.neighbour m)
  neighbourTable m := f (F.neighbourTable m) (G.neighbourTable m)
  route m := f (F.route m) (G.route m)
  prefixes m := f (F.prefixes m) (G.prefixes m)
  tc m := f (F.tc m) (G.tc m)
  tcAction m := f (F.tcAction m) (G.tcAction m)
  mdb m := f (F.mdb m) (G.mdb m)
  tunnel m := f (F.tunnel m) (G.tunnel m)
  nexthop m := f (F.nexthop m) (G.nexthop m)
  nsid m := f (F.nsid m) (G.nsid m)
  rule m := f (F.rule m) (G.rule m)

/-- What holds of each family's messages by one table holds by the other. -/
structure Families.Implies (P Q : Families Prop) : Prop where
  link : ∀ m, P.link m → Q.link m
  address : ∀ m, P.address m → Q.address m
  neighbour : ∀ m, P.neighbour m → Q.neighbour m
  neighbourTable : ∀ m, P.neighbourTable m → Q.neighbourTable m
  route : ∀ m, P.route m → Q.route m
  prefixes : ∀ m, P.prefixes m → Q.prefixes m
  tc : ∀ m, P.tc m → Q.tc m
  tcAction : ∀ m, P.tcAction m → Q.tcAction m
  mdb : ∀ m, P.mdb m → Q.mdb m
  tunnel : ∀ m, P.tunnel m → Q.tunnel m
  nexthop : ∀ m, P.nexthop m → Q.nexthop m
  nsid : ∀ m, P.nsid m → Q.nsid m
  rule : ∀ m, P.rule m → Q.rule m

/-- A change to the messages of each family. -/
structure Changes where
  link : LinkMessage → LinkMessage
  address : AddressMessage → AddressMessage
  neighbour : NeighbourMessage → NeighbourMessage
  neighbourTable : NeighbourTableMessage → NeighbourTableMessage
  route : RouteMessage → RouteMessage
  prefixes : PrefixMessage → PrefixMessage
  tc : TcMessage → TcMessage
  tcAction : TcActionMessage → TcActionMessage
  mdb : MdbMessage → MdbMessage
  tunnel : TunnelMessage → TunnelMessage
  nexthop : NexthopMessage → NexthopMessage
  nsid : NsidMessage → NsidMessage
  rule : RuleMessage → RuleMessage

/-- What a table has for the messages when they are changed. -/
def Families.comp {β : Type} (F : Families β) (c : Changes) : Families β where
  link m := F.link (c.link m)
  address m := F.address (c.address m)
  neighbour m := F.neighbour (c.neighbour m)
  neighbourTable m := F.neighbourTable (c.neighbourTable m)
  route m := F.route (c.route m)
  prefixes m := F.prefixes (c.prefixes m)
  tc m := F.tc (c.tc m)
  tcAction m := F.tcAction (c.tcAction m)
  mdb m := F.mdb (c.mdb m)
  tunnel m := F.tunnel (c.tunnel m)
  nexthop m := F.nexthop (c.nexthop m)
  nsid m := F.nsid (c.nsid m)
  rule m := F.rule (c.rule m)

namespace RouteNetlinkMessage

/-- What a table has for the message inside. -/
def inFamily {β : Type} (f : Families β) : RouteNetlinkMessage → β
  | .newLink msg | .delLink msg | .getLink msg | .setLink msg | .newLinkProp msg
  | .delLinkProp msg => f.link msg
  | .newAddress msg | .delAddress msg | .getAddress msg => f.address msg
  | .newNeighbour msg | .getNeighbour msg | .delNeighbour msg => f.neighbour msg
  | .newNeighbourTable msg | .getNeighbourTable msg | .setNeighbourTable msg =>
    f.neighbourTable msg
  | .newRoute msg | .delRoute msg | .getRoute msg => f.route msg
  | .newPrefix msg => f.prefixes msg
  | .newQueueDiscipline msg | .delQueueDiscipline msg | .getQueueDiscipline msg
  | .newTrafficClass msg | .delTrafficClass msg | .getTrafficClass msg | .newTrafficFilter msg
  | .delTrafficFilter msg | .getTrafficFilter msg | .newTrafficChain msg | .delTrafficChain msg
  | .getTrafficChain msg => f.tc msg
  | .newTrafficAction msg | .delTrafficAction msg | .getTrafficAction msg => f.tcAction msg
  | .newMdb msg | .delMdb msg | .getMdb msg => f.mdb msg
  | .newTunnel msg | .delTunnel msg | .getTunnel msg => f.tunnel msg
  | .newNexthop msg | .delNexthop msg | .getNexthop msg => f.nexthop msg
  | .newNsId msg | .delNsId msg | .getNsId msg => f.nsid msg
  | .newRule msg | .delRule msg | .getRule msg => f.rule msg

/-- Combining two conditions family by family combines them on the message. -/
@[simp] theorem inFamily_map₂ {β γ δ : Type} {f : β → γ → δ} {F : Families β} {G : Families γ}
    (m : RouteNetlinkMessage) : m.inFamily (F.map₂ f G) = f (m.inFamily F) (m.inFamily G) := by
  cases m <;> rfl

/-- **Family by family.** -/
theorem inFamily_mono {P Q : Families Prop} (h : P.Implies Q) (m : RouteNetlinkMessage)
    (hm : m.inFamily P) : m.inFamily Q := by
  cases m with
  | newLink msg | delLink msg | getLink msg | setLink msg | newLinkProp msg | delLinkProp msg =>
    exact h.link msg hm
  | newAddress msg | delAddress msg | getAddress msg => exact h.address msg hm
  | newNeighbour msg | getNeighbour msg | delNeighbour msg => exact h.neighbour msg hm
  | newNeighbourTable msg | getNeighbourTable msg | setNeighbourTable msg =>
    exact h.neighbourTable msg hm
  | newRoute msg | delRoute msg | getRoute msg => exact h.route msg hm
  | newPrefix msg => exact h.prefixes msg hm
  | newTrafficAction msg | delTrafficAction msg | getTrafficAction msg => exact h.tcAction msg hm
  | newMdb msg | delMdb msg | getMdb msg => exact h.mdb msg hm
  | newTunnel msg | delTunnel msg | getTunnel msg => exact h.tunnel msg hm
  | newNexthop msg | delNexthop msg | getNexthop msg => exact h.nexthop msg hm
  | newNsId msg | delNsId msg | getNsId msg => exact h.nsid msg hm
  | newRule msg | delRule msg | getRule msg => exact h.rule msg hm
  | _ msg => exact h.tc msg hm

/-- The same message, with the one inside changed. -/
def change (c : Changes) : RouteNetlinkMessage → RouteNetlinkMessage
  | .newLink msg => .newLink (c.link msg)
  | .delLink msg => .delLink (c.link msg)
  | .getLink msg => .getLink (c.link msg)
  | .setLink msg => .setLink (c.link msg)
  | .newLinkProp msg => .newLinkProp (c.link msg)
  | .delLinkProp msg => .delLinkProp (c.link msg)
  | .newAddress msg => .newAddress (c.address msg)
  | .delAddress msg => .delAddress (c.address msg)
  | .getAddress msg => .getAddress (c.address msg)
  | .newNeighbour msg => .newNeighbour (c.neighbour msg)
  | .getNeighbour msg => .getNeighbour (c.neighbour msg)
  | .delNeighbour msg => .delNeighbour (c.neighbour msg)
  | .newNeighbourTable msg => .newNeighbourTable (c.neighbourTable msg)
  | .getNeighbourTable msg => .getNeighbourTable (c.neighbourTable msg)
  | .setNeighbourTable msg => .setNeighbourTable (c.neighbourTable msg)
  | .newRoute msg => .newRoute (c.route msg)
  | .delRoute msg => .delRoute (c.route msg)
  | .getRoute msg => .getRoute (c.route msg)
  | .newPrefix msg => .newPrefix (c.prefixes msg)
  | .newQueueDiscipline msg => .newQueueDiscipline (c.tc msg)
  | .delQueueDiscipline msg => .delQueueDiscipline (c.tc msg)
  | .getQueueDiscipline msg => .getQueueDiscipline (c.tc msg)
  | .newTrafficClass msg => .newTrafficClass (c.tc msg)
  | .delTrafficClass msg => .delTrafficClass (c.tc msg)
  | .getTrafficClass msg => .getTrafficClass (c.tc msg)
  | .newTrafficFilter msg => .newTrafficFilter (c.tc msg)
  | .delTrafficFilter msg => .delTrafficFilter (c.tc msg)
  | .getTrafficFilter msg => .getTrafficFilter (c.tc msg)
  | .newTrafficChain msg => .newTrafficChain (c.tc msg)
  | .delTrafficChain msg => .delTrafficChain (c.tc msg)
  | .getTrafficChain msg => .getTrafficChain (c.tc msg)
  | .newTrafficAction msg => .newTrafficAction (c.tcAction msg)
  | .delTrafficAction msg => .delTrafficAction (c.tcAction msg)
  | .getTrafficAction msg => .getTrafficAction (c.tcAction msg)
  | .newMdb msg => .newMdb (c.mdb msg)
  | .delMdb msg => .delMdb (c.mdb msg)
  | .getMdb msg => .getMdb (c.mdb msg)
  | .newTunnel msg => .newTunnel (c.tunnel msg)
  | .delTunnel msg => .delTunnel (c.tunnel msg)
  | .getTunnel msg => .getTunnel (c.tunnel msg)
  | .newNexthop msg => .newNexthop (c.nexthop msg)
  | .delNexthop msg => .delNexthop (c.nexthop msg)
  | .getNexthop msg => .getNexthop (c.nexthop msg)
  | .newNsId msg => .newNsId (c.nsid msg)
  | .delNsId msg => .delNsId (c.nsid msg)
  | .getNsId msg => .getNsId (c.nsid msg)
  | .newRule msg => .newRule (c.rule msg)
  | .delRule msg => .delRule (c.rule msg)
  | .getRule msg => .getRule (c.rule msg)

/-- A changed message meets a condition where the message meets the changed
one. -/
@[simp] theorem inFamily_change {β : Type} {F : Families β} {c : Changes}
    (m : RouteNetlinkMessage) : (m.change c).inFamily F = m.inFamily (F.comp c) := by
  cases m <;> rfl

/-- A change keeps the message type. -/
@[simp] theorem messageType_change {c : Changes} (m : RouteNetlinkMessage) :
    (m.change c).messageType = m.messageType := by
  cases m <;> rfl

/-- It keeps whether the message is about link properties. -/
@[simp] theorem isLinkProp_change {c : Changes} (m : RouteNetlinkMessage) :
    (m.change c).IsLinkProp ↔ m.IsLinkProp := by
  cases m <;> exact Iff.rfl

section

variable [PacketUtils] {m : RouteNetlinkMessage} {b : Bytes} {t : UInt16}

/-- The message inside is what the decoder of its family makes of the
bytes. -/
def decodedFrom (b : Bytes) : Families Prop where
  link msg := LinkMessage.decode b = .ok msg
  address msg := AddressMessage.format.decode b = .ok msg
  neighbour msg := NeighbourMessage.format.decode b = .ok msg
  neighbourTable msg := NeighbourTableMessage.format.decode b = .ok msg
  route msg := RouteMessage.decode b = .ok msg
  prefixes msg := PrefixMessage.format.decode b = .ok msg
  tc msg := TcMessage.decode b = .ok msg
  tcAction msg := TcActionMessage.decode b = .ok msg
  mdb msg := MdbMessage.format.decode b = .ok msg
  tunnel msg := TunnelMessage.decode b = .ok msg
  nexthop msg := NexthopMessage.format.decode b = .ok msg
  nsid msg := NsidMessage.format.decode b = .ok msg
  rule msg := RuleMessage.format.decode b = .ok msg

omit [PacketUtils] in
/-- A request that ends behind its first bytes: what is asked for is
everything of the address family in the first of them. -/
def RequestOf (b : Bytes) : RouteNetlinkMessage → Prop
  | .getLink msg => ∃ family, (b.length = 4 ∧ b.head? = some family) ∧
    msg = ⟨⟨AddressFamily.codec.ofNum family, 0, .netrom, 0, 0⟩, []⟩
  | .getAddress msg => ∃ family, (b.length = 4 ∧ b.head? = some family) ∧
    msg = ⟨⟨AddressFamily.codec.ofNum family, 0, 0, .universe_, 0⟩, []⟩
  | .getRoute msg => ∃ family, ((b.length = 4 ∨ b.length = 1) ∧ b.head? = some family) ∧
    msg = ⟨{ RouteHeader.default_ with addressFamily := AddressFamily.codec.ofNum family }, []⟩
  | _ => False

/-! ## One arm -/

section Inner

variable {μ : Type} {buffer err : String} {len : ℕ} {parse : Bytes → Outcome μ} {msg : μ}
  {short : Bool} {request : AddressFamily → μ}

/-- The context of the dispatcher adds text to errors and leaves acceptance
as it is. -/
theorem parseChecked_eq_ok_iff : parseChecked buffer len parse err b = .ok msg ↔
    (checkedBuffer buffer len b >>= parse) = .ok msg := by
  simp only [parseChecked, Outcome.bind_eq_ok, Outcome.context_eq_ok]

/-- The other way of `parseOrShort`: too few bytes for a header, and a
request is looked for. -/
theorem parseOrShort_eq_ok_iff : parseOrShort buffer len parse err short request b = .ok msg ↔
    (checkedBuffer buffer len b >>= parse) = .ok msg ∨
      b.length < len ∧ short = true ∧ ∃ family, b.head? = some family ∧
        request (AddressFamily.codec.ofNum family) = msg := by
  unfold parseOrShort
  rcases Nat.lt_or_ge b.length len with hlt | hle
  · obtain ⟨e, he⟩ := checkedBuffer_of_lt (s := buffer) hlt
    rw [he]
    cases short with
    | false => simp
    | true =>
      simp only [Outcome.err_bind, reduceCtorEq, hlt, true_and, false_or, if_true]
      cases b with
      | nil =>
        have hpanic : getU8 ([] : Bytes) 0 = .panic := rfl
        simp [hpanic]
      | cons family b => simp [getU8_of_lt]
  · rw [checkedBuffer_of_le hle]
    simp [Nat.not_lt.2 hle]

end Inner

section Arms

variable {μ : Type} {buffer err : String} {len : ℕ} {parse : Bytes → Outcome μ}
  {arms : μ → List (UInt16 × RouteNetlinkMessage)} {P : RouteNetlinkMessage → Prop}

omit [PacketUtils] in
/-- An inner `match` gives the variant of the arm that it takes. -/
theorem holds_variantOf_of {arms : List (UInt16 × RouteNetlinkMessage)}
    (h : ∀ arm ∈ arms, t = arm.1 → P arm.2) : (variantOf t arms).Holds P := by
  refine select_ind (P := Outcome.Holds P) (fun arm ha ht => ?_) fun _ => Outcome.holds_panic
  obtain ⟨arm, hmem, rfl⟩ := List.mem_map.1 ha
  exact (Outcome.holds_ok _).2 (h arm hmem ht)

/-- A family whose header is always there. -/
theorem holds_parseChecked (h : ∀ msg, (checkedBuffer buffer len b >>= parse) = .ok msg →
    ∀ arm ∈ arms msg, t = arm.1 → P arm.2) :
    (parseChecked buffer len parse err b >>= fun msg => variantOf t (arms msg)).Holds P := by
  refine Outcome.holds_bind.2 fun msg hmsg => holds_variantOf_of ?_
  exact h msg (parseChecked_eq_ok_iff.1 hmsg)

/-- A family that may be asked for without one. -/
theorem holds_parseOrShort {short : Bool} {request : AddressFamily → μ}
    (h : ∀ msg, (checkedBuffer buffer len b >>= parse) = .ok msg →
      ∀ arm ∈ arms msg, t = arm.1 → P arm.2)
    (hshort : short = true → ∀ family, b.head? = some family →
      (variantOf t (arms (request (AddressFamily.codec.ofNum family)))).Holds P) :
    (parseOrShort buffer len parse err short request b >>= fun msg =>
      variantOf t (arms msg)).Holds P := by
  refine Outcome.holds_bind.2 fun msg hmsg => ?_
  rcases parseOrShort_eq_ok_iff.1 hmsg with hdec | ⟨-, hs, family, hf, rfl⟩
  · exact holds_variantOf_of (h msg hdec)
  · exact hshort hs family hf

end Arms

/-! ## All of them -/

/-- What is parsed was decoded by its family's decoder, or is a request. -/
theorem holds_parseWithParam : (parseWithParam b t).Holds fun m =>
    ¬ m.IsLinkProp ∧ (m.inFamily (decodedFrom b) ∨ m.RequestOf b) := by
  refine selectAny_ind (P := Outcome.Holds fun m : RouteNetlinkMessage =>
    ¬ m.IsLinkProp ∧ (m.inFamily (decodedFrom b) ∨ m.RequestOf b)) (fun arm ha ht => ?_)
    (Outcome.holds_err _)
  simp only [List.mem_cons, List.not_mem_nil, or_false] at ha
  rcases ha with rfl | rfl | rfl | rfl | rfl | rfl | rfl | rfl | rfl | rfl | rfl | rfl | rfl
  -- these may be asked for without a header, and only to get what there is
  case inl =>
    refine holds_parseOrShort (fun msg hdec => ?_) fun hs family hf => ?_
    · have hdec : LinkMessage.decode b = .ok msg := LinkMessage.decode_eq.trans hdec
      simp [IsLinkProp, inFamily, decodedFrom, hdec]
    · obtain ⟨hlen, rfl⟩ := of_decide_eq_true hs
      exact (Outcome.holds_ok _).2 ⟨id, .inr ⟨family, ⟨hlen, hf⟩, rfl⟩⟩
  case inr.inl =>
    refine holds_parseOrShort (fun msg hdec => ?_) fun hs family hf => ?_
    · have hdec : AddressMessage.format.decode b = .ok msg := hdec
      simp [IsLinkProp, inFamily, decodedFrom, hdec]
    · obtain ⟨hlen, rfl⟩ := of_decide_eq_true hs
      exact (Outcome.holds_ok _).2 ⟨id, .inr ⟨family, ⟨hlen, hf⟩, rfl⟩⟩
  case inr.inr.inr.inr.inl =>
    refine holds_parseOrShort (fun msg hdec => ?_) fun hs family hf => ?_
    · have hdec : RouteMessage.decode b = .ok msg := hdec
      simp [IsLinkProp, inFamily, decodedFrom, hdec]
    · obtain ⟨hlen, rfl⟩ := of_decide_eq_true hs
      exact (Outcome.holds_ok _).2 ⟨id, .inr ⟨family, ⟨hlen, hf⟩, rfl⟩⟩
  case inr.inr.inr.inr.inr.inl =>
    -- prefixes have one type and no inner `match`
    refine Outcome.holds_map.2 fun msg hmsg => ⟨id, .inl ?_⟩
    exact parseChecked_eq_ok_iff.1 hmsg
  all_goals
    refine holds_parseChecked fun msg hdec arm harm _ => ?_
    simp only [List.mem_cons, List.not_mem_nil, or_false] at harm
  case inr.inr.inr.inr.inr.inr.inr.inl =>
    rcases harm with rfl | rfl | rfl | rfl | rfl | rfl | rfl | rfl | rfl | rfl | rfl | rfl
    all_goals exact ⟨id, .inl hdec⟩
  all_goals
    rcases harm with rfl | rfl | rfl
    all_goals exact ⟨id, .inl hdec⟩

/-- A family's message is parsed from the bytes that its decoder takes. -/
theorem parseWithParam_of_decodedFrom (hm : ¬ m.IsLinkProp) (h : m.inFamily (decodedFrom b)) :
    parseWithParam b m.messageType = .ok m := by
  cases m with
  | newLinkProp msg | delLinkProp msg => exact absurd trivial hm
  | newLink msg | delLink msg | getLink msg | setLink msg =>
    have h : LinkMessage.format.decode b = .ok msg := LinkMessage.decode_eq.symm.trans h
    exact (selectAny_of_find rfl).trans (parseOrShort_bind h)
  | newAddress msg | delAddress msg | getAddress msg | newRoute msg | delRoute msg
  | getRoute msg => exact (selectAny_of_find rfl).trans (parseOrShort_bind h)
  | _ msg => exact (selectAny_of_find rfl).trans (parseChecked_bind h)

/-- And a request from its first bytes. -/
theorem parseWithParam_of_requestOf (h : m.RequestOf b) :
    parseWithParam b m.messageType = .ok m := by
  have hrequest : ∀ {μ : Type} {buffer err : String} {len : ℕ} {parse : Bytes → Outcome μ}
      {short : Bool} {request : AddressFamily → μ} {family : UInt8}
      {f : μ → Outcome RouteNetlinkMessage}, b.length < len → short = true →
      b.head? = some family → (parseOrShort buffer len parse err short request b >>= f) =
        f (request (AddressFamily.codec.ofNum family)) := by
    intro μ buffer err len parse short request family f hlt hs hf
    rw [parseOrShort_eq_ok_iff.2 (.inr ⟨hlt, hs, family, hf, rfl⟩), Outcome.ok_bind]
  cases m with
  | getLink msg =>
    obtain ⟨family, ⟨hlen, hf⟩, rfl⟩ := h
    have hlt : b.length < LinkHeader.codec.len := by
      show b.length < 16
      omega
    exact (selectAny_of_find rfl).trans (hrequest hlt (decide_eq_true ⟨hlen, rfl⟩) hf)
  | getAddress msg =>
    obtain ⟨family, ⟨hlen, hf⟩, rfl⟩ := h
    have hlt : b.length < AddressHeader.codec.len := by
      show b.length < 8
      omega
    exact (selectAny_of_find rfl).trans (hrequest hlt (decide_eq_true ⟨hlen, rfl⟩) hf)
  | getRoute msg =>
    obtain ⟨family, ⟨hlen, hf⟩, rfl⟩ := h
    have hlt : b.length < RouteHeader.bufferLen := by
      show b.length < 12
      omega
    exact (selectAny_of_find rfl).trans (hrequest hlt (decide_eq_true ⟨hlen, rfl⟩) hf)
  | _ msg => exact h.elim

/-- **What is accepted, under which type, and as what.** Under the type of
a variant that is not about the properties of a link, the bytes that the
decoder of the family takes for its message, and the first bytes of a
request; nothing else. -/
theorem deserialize_eq_ok_iff : deserialize t b = .ok m ↔
    m.messageType = t ∧ ¬ m.IsLinkProp ∧ (m.inFamily (decodedFrom b) ∨ m.RequestOf b) := by
  constructor
  · intro h
    exact ⟨messageType_of_parseWithParam h, holds_parseWithParam m h⟩
  · rintro ⟨rfl, hm, h | h⟩
    · exact parseWithParam_of_decodedFrom hm h
    · exact parseWithParam_of_requestOf h

end

end RouteNetlinkMessage

end NetlinkRoute
