import NetlinkRoute.Message.Model
import NetlinkRoute.Link.Recursion
import NetlinkRoute.Common.Reference
/-!
# Messages of all families — the message type and the variant

The tables agree where they meet: what the parser makes of a message type
is a variant of that type (`messageType_of_parseWithParam`), and a variant
whose inner message comes back comes back under its own type. The parser
has no arm for the two types that say what to do with the properties of a
link, so these two variants are the ones that never do
(`deserialize_serialize_iff`).
-/

namespace NetlinkRoute

open PacketUtils Emitter

namespace RouteNetlinkMessage

section

variable [PacketUtils] {m : RouteNetlinkMessage} {b buf out : Bytes} {t : UInt16}

/-! ## From the type to the variant -/

omit [PacketUtils] in
/-- An inner `match` whose arms are of their own types makes a variant of
the type that it is given. -/
theorem holds_variantOf {arms : List (UInt16 × RouteNetlinkMessage)}
    (h : ∀ arm ∈ arms, arm.2.messageType = arm.1) :
    (variantOf t arms).Holds fun m => m.messageType = t := by
  refine select_ind (P := Outcome.Holds fun m : RouteNetlinkMessage => m.messageType = t)
    (fun arm ha ht => ?_) fun _ => Outcome.holds_panic
  obtain ⟨arm, hmem, rfl⟩ := List.mem_map.1 ha
  exact (Outcome.holds_ok _).2 ((h arm hmem).trans ht.symm)

omit [PacketUtils] in
/-- The same, behind the parser of the inner message. -/
private theorem holds_family {μ : Type} {inner : Outcome μ}
    {arms : μ → List (UInt16 × RouteNetlinkMessage)}
    (h : ∀ msg, ∀ arm ∈ arms msg, arm.2.messageType = arm.1) :
    (inner >>= fun msg => variantOf t (arms msg)).Holds fun m => m.messageType = t :=
  Outcome.holds_bind.2 fun msg _ => holds_variantOf (h msg)

/-- **What is parsed under a message type is of that type.** -/
theorem messageType_of_parseWithParam (h : parseWithParam b t = .ok m) : m.messageType = t := by
  have hholds : (parseWithParam b t).Holds fun m => m.messageType = t := by
    refine selectAny_ind (P := Outcome.Holds fun m : RouteNetlinkMessage => m.messageType = t)
      (fun arm ha ht => ?_) (Outcome.holds_err _)
    simp only [List.mem_cons, List.not_mem_nil, or_false] at ha
    rcases ha with rfl | rfl | rfl | rfl | rfl | rfl | rfl | rfl | rfl | rfl | rfl | rfl | rfl
    case inr.inr.inr.inr.inr.inl =>
      -- prefixes have one type and no inner `match`
      obtain rfl := List.mem_singleton.1 ht
      exact Outcome.holds_map.2 fun _ _ => rfl
    all_goals exact holds_family fun msg => by simp [messageType]
  exact hholds m h

/-! ## From the variant to the type -/

section Inner

variable {μ : Type} {buffer err : String} {len : ℕ} {parse : Bytes → Outcome μ} {msg : μ}

/-- What a family's own parser makes of a buffer, the dispatcher's does. -/
theorem parseChecked_bind {f : μ → Outcome RouteNetlinkMessage}
    (h : (checkedBuffer buffer len b >>= parse) = .ok msg) :
    (parseChecked buffer len parse err b >>= f) = f msg := by
  obtain ⟨c, hc, hp⟩ := (Outcome.bind_eq_ok _ _).1 h
  rw [parseChecked, hc, Outcome.context_ok, Outcome.ok_bind, hp]
  rfl

/-- A buffer that holds the header is never taken for a short request. -/
theorem parseOrShort_bind {short : Bool} {request : AddressFamily → μ}
    {f : μ → Outcome RouteNetlinkMessage}
    (h : (checkedBuffer buffer len b >>= parse) = .ok msg) :
    (parseOrShort buffer len parse err short request b >>= f) = f msg := by
  obtain ⟨c, hc, hp⟩ := (Outcome.bind_eq_ok _ _).1 h
  rw [parseOrShort, hc]
  show ((parse c).context err >>= f) = _
  rw [hp]
  rfl

/-- A message comes back from the buffer that it is written into. -/
def ComesBackFrom (buf : Bytes) (len : ℕ) (emit : Emitter) (decode : Bytes → Outcome μ)
    (msg : μ) : Prop :=
  buf.length = len ∧ ∃ out, emit.run buf = .ok out ∧ decode out = .ok msg

end Inner

/-- The inner message comes back from this buffer, through its own emitter
and parser. -/
def InnerComesBack (buf : Bytes) : RouteNetlinkMessage → Prop
  | .newLink msg | .delLink msg | .getLink msg | .setLink msg | .newLinkProp msg
  | .delLinkProp msg =>
    ComesBackFrom buf (LinkMessage.bufferLen msg) (LinkMessage.emit msg) LinkMessage.decode msg
  | .newAddress msg | .delAddress msg | .getAddress msg =>
    ComesBackFrom buf (AddressMessage.format.bufferLen msg) (AddressMessage.format.emit msg)
      AddressMessage.format.decode msg
  | .newNeighbour msg | .getNeighbour msg | .delNeighbour msg =>
    ComesBackFrom buf (NeighbourMessage.format.bufferLen msg) (NeighbourMessage.format.emit msg)
      NeighbourMessage.format.decode msg
  | .newNeighbourTable msg | .getNeighbourTable msg | .setNeighbourTable msg =>
    ComesBackFrom buf (NeighbourTableMessage.format.bufferLen msg)
      (NeighbourTableMessage.format.emit msg) NeighbourTableMessage.format.decode msg
  | .newRoute msg | .delRoute msg | .getRoute msg =>
    ComesBackFrom buf msg.bufferLen msg.emit RouteMessage.decode msg
  | .newPrefix msg =>
    ComesBackFrom buf (PrefixMessage.format.bufferLen msg) (PrefixMessage.format.emit msg)
      PrefixMessage.format.decode msg
  | .newQueueDiscipline msg | .delQueueDiscipline msg | .getQueueDiscipline msg
  | .newTrafficClass msg | .delTrafficClass msg | .getTrafficClass msg | .newTrafficFilter msg
  | .delTrafficFilter msg | .getTrafficFilter msg | .newTrafficChain msg | .delTrafficChain msg
  | .getTrafficChain msg =>
    ComesBackFrom buf (TcMessage.bufferLen msg) (TcMessage.emit msg) TcMessage.decode msg
  | .newTrafficAction msg | .delTrafficAction msg | .getTrafficAction msg =>
    ComesBackFrom buf (TcActionMessage.bufferLen msg) (TcActionMessage.emit msg)
      TcActionMessage.decode msg
  | .newMdb msg | .delMdb msg | .getMdb msg =>
    ComesBackFrom buf (MdbMessage.format.bufferLen msg) (MdbMessage.format.emit msg)
      MdbMessage.format.decode msg
  | .newTunnel msg | .delTunnel msg | .getTunnel msg =>
    ComesBackFrom buf msg.bufferLen msg.emit TunnelMessage.decode msg
  | .newNexthop msg | .delNexthop msg | .getNexthop msg =>
    ComesBackFrom buf (NexthopMessage.format.bufferLen msg) (NexthopMessage.format.emit msg)
      NexthopMessage.format.decode msg
  | .newNsId msg | .delNsId msg | .getNsId msg =>
    ComesBackFrom buf (NsidMessage.format.bufferLen msg) (NsidMessage.format.emit msg)
      NsidMessage.format.decode msg
  | .newRule msg | .delRule msg | .getRule msg =>
    ComesBackFrom buf (RuleMessage.format.bufferLen msg) (RuleMessage.format.emit msg)
      RuleMessage.format.decode msg

/-- The message comes back from this buffer, under its own message type. -/
def ComesBack (buf : Bytes) (m : RouteNetlinkMessage) : Prop :=
  ComesBackFrom buf m.bufferLen m.serialize (deserialize m.messageType) m

omit [PacketUtils] in
/-- The variants for the properties of a link. -/
def IsLinkProp : RouteNetlinkMessage → Prop
  | .newLinkProp _ | .delLinkProp _ => True
  | _ => False

/-- Every other variant is parsed from what its inner message is. -/
theorem InnerComesBack.comesBack (h : m.InnerComesBack buf) (hm : ¬ m.IsLinkProp) :
    m.ComesBack buf := by
  cases m with
  | newLinkProp msg | delLinkProp msg => exact absurd trivial hm
  -- these may be sent without a header: a whole message is not taken for such a request
  | newLink msg | delLink msg | getLink msg | setLink msg =>
    obtain ⟨hlen, out, hout, hdec⟩ := h
    rw [LinkMessage.decode_eq] at hdec
    exact ⟨hlen, out, hout, (selectAny_of_find rfl).trans (parseOrShort_bind hdec)⟩
  | newAddress msg | delAddress msg | getAddress msg | newRoute msg | delRoute msg
  | getRoute msg =>
    obtain ⟨hlen, out, hout, hdec⟩ := h
    exact ⟨hlen, out, hout, (selectAny_of_find rfl).trans (parseOrShort_bind hdec)⟩
  | _ msg =>
    obtain ⟨hlen, out, hout, hdec⟩ := h
    exact ⟨hlen, out, hout, (selectAny_of_find rfl).trans (parseChecked_bind hdec)⟩

/-- The parser has no arm for them. -/
theorem parseWithParam_linkProp (hm : m.IsLinkProp) : parseWithParam b m.messageType ≠ .ok m := by
  cases m with
  | newLinkProp msg => exact fun h => by cases h
  | delLinkProp msg => exact fun h => by cases h
  | _ => exact hm.elim

/-- **A message whose inner message comes back comes back under its
message type exactly when it is not about the properties of a link**, and
what is parsed under a message type is of that type. -/
theorem deserialize_serialize_iff :
    (∀ (m : RouteNetlinkMessage) (buf : Bytes), m.InnerComesBack buf →
      (m.ComesBack buf ↔ ¬ m.IsLinkProp)) ∧
    ∀ (t : UInt16) (b : Bytes) (m : RouteNetlinkMessage), parseWithParam b t = .ok m →
      m.messageType = t := by
  refine ⟨fun m buf h => ⟨?_, h.comesBack⟩, fun t b m => messageType_of_parseWithParam⟩
  rintro ⟨-, out, -, hout⟩ hm
  exact parseWithParam_linkProp hm hout

end

/-! ## On a little-endian host -/

section Concrete

attribute [local instance] Reference.little

/-- Another name for the second link. -/
def altName : RouteNetlinkMessage :=
  .newLinkProp ⟨⟨.unspec, 2, .netrom, 0, 0⟩, [.propList [.altIfName "lan"]]⟩

/-- Its inner message comes back, and it does not: the parser knows no
`RTM_NEWLINKPROP`. -/
theorem altName_not_comesBack : altName.InnerComesBack (zeros 28) ∧
    deserialize altName.messageType (zeros 28) =
      .fail ("Unknown message type: " ++ toString RTM_NEWLINKPROP) ∧
    ¬ altName.ComesBack (zeros 28) := by
  refine ⟨⟨rfl, _, rfl, rfl⟩, rfl, ?_⟩
  rintro ⟨-, out, -, hout⟩
  exact parseWithParam_linkProp (m := altName) trivial hout

/-- A request for one tunnel, in a buffer that held something else. -/
def askTunnel : RouteNetlinkMessage := .getTunnel ⟨⟨.bridge, 1, 7⟩, [10]⟩

theorem askTunnel_comesBack : askTunnel.InnerComesBack (List.replicate 20 255) ∧
    askTunnel.ComesBack (List.replicate 20 255) := by
  have hinner : askTunnel.InnerComesBack (List.replicate 20 255) := ⟨rfl, _, rfl, rfl⟩
  exact ⟨hinner, (deserialize_serialize_iff.1 askTunnel _ hinner).2 id⟩

end Concrete

end RouteNetlinkMessage

end NetlinkRoute
