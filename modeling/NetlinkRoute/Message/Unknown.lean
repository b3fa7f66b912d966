import NetlinkRoute.Message.Sequence
import NetlinkRoute.Neighbour.Message
import NetlinkRoute.Message.Transparent
import NetlinkRoute.Tc.ActionMessage
/-!
# Messages of all families — what is not known yet

A kernel may send attributes that this program does not know. In every
family they are kept with their payload where they stand, and nothing else
of the message is read differently for it (`deserialize_insertEach`).
An entry of a tunnel that is not one is left out.
-/

namespace NetlinkRoute

open PacketUtils

section

variable [PacketUtils] {nb : NlaBuffer} {word : UInt16} {v : Bytes}

/-! ## The attributes of each family -/

/-- An attribute of an address whose kind is not known is kept as it is. -/
theorem AddressAttribute.parse_other (h : Carries nb word v)
    (hk : word &&& NLA_TYPE_MASK ∉ kinds) : parse nb = .ok (.other ⟨word, v⟩) := by
  rw [parse, h.bind, select_default (by exact hk), h.defaultNla]
  rfl

namespace PrefixAttribute

/-- The kinds its parser names. -/
def kinds : List UInt16 := [PREFIX_ADDRESS, PREFIX_CACHEINFO]

/-- So is one of a prefix. -/
theorem parse_other (h : Carries nb word v) (hk : word &&& NLA_TYPE_MASK ∉ kinds) :
    parse nb = .ok (.other ⟨word, v⟩) := by
  rw [parse, h.bind, select_default (by exact hk), h.defaultNla]
  rfl

end PrefixAttribute

/-- So is one of a neighbour, under every family. -/
theorem NeighbourAttribute.parse_other {family : AddressFamily} (h : Carries nb word v)
    (hk : word &&& NLA_TYPE_MASK ∉ kinds) : parseWithParam family nb = .ok (.other ⟨word, v⟩) := by
  rw [parseWithParam, h.bind, select_default (by exact hk), h.defaultNla]
  rfl

/-- So is one of a neighbour table. -/
theorem NeighbourTableAttribute.parse_other (h : Carries nb word v)
    (hk : word &&& NLA_TYPE_MASK ∉ kinds) : parse nb = .ok (.other ⟨word, v⟩) := by
  rw [parse, h.bind, select_default (by exact hk), h.defaultNla]
  rfl

/-- So is one of a next hop, under every family. -/
theorem NexthopAttribute.parse_other {family : AddressFamily} (h : Carries nb word v)
    (hk : word &&& NLA_TYPE_MASK ∉ kinds) : parseWithParam family nb = .ok (.other ⟨word, v⟩) := by
  rw [parseWithParam, h.bind, select_default (by exact hk), h.defaultNla]
  rfl

/-- So is one of a namespace. -/
theorem NsidAttribute.parse_other (h : Carries nb word v)
    (hk : word &&& NLA_TYPE_MASK ∉ kinds) : parse nb = .ok (.other ⟨word, v⟩) := by
  rw [parse, h.bind, select_default (by exact hk), h.defaultNla]
  rfl

/-- So is one of a rule. -/
theorem RuleAttribute.parse_other (h : Carries nb word v)
    (hk : word &&& NLA_TYPE_MASK ∉ kinds) : parse nb = .ok (.other ⟨word, v⟩) := by
  rw [parse, h.bind, select_default (by exact hk), h.defaultNla]
  rfl

/-- So is one of an action message. -/
theorem TcActionMessageAttribute.parse_other (h : Carries nb word v)
    (hk : word &&& NLA_TYPE_MASK ∉ kinds) : parse nb = .ok (.other ⟨word, v⟩) := by
  rw [parse, h.bind, select_default (by exact hk), h.defaultNla]
  rfl

namespace MdbAttribute

/-- An attribute that is not known, without the flags of its kind. -/
def unflagged (d : DefaultNla) : MdbAttribute := .other ⟨d.kind &&& NLA_TYPE_MASK, d.value⟩

/-- The database keeps it without the flag bits of its kind word. -/
theorem parse_other (h : Carries nb word v) (hk : word &&& NLA_TYPE_MASK ∉ kinds) :
    parseWithParam nb = .ok (unflagged ⟨word, v⟩) := by
  rw [parseWithParam, h.bind, select_default (by exact hk)]
  rfl

end MdbAttribute

/-! ## Messages -/

section Messages

variable {hdr : Bytes} {l : List (UInt16 × Bytes)} {ins : List (ℕ × UInt16 × Bytes)}

/-- An unknown attribute in an action message is kept where it stands. -/
theorem TcActionMessage.transparent (hlen : hdr.length = TcActionMessageHeader.codec.len) :
    Transparent TcActionMessageAttribute.kinds .other Message.overAttributes
      fun l => TcActionMessage.decode (hdr ++ encodeNlas l) := by
  have h := each.transparent hlen fun _ _ _ _ => TcActionMessageAttribute.parse_other
  simpa only [decode_eq] using h

/-- What is not an entry holds no identifier. -/
theorem TunnelMessage.decode_insertEach (hlen : hdr.length = 8) (hl : Consistent l)
    (hins : UnknownTo [VXLAN_VNIFILTER_ENTRY] ins) :
    decode (hdr ++ encodeNlas (insertEach l ins)) = decode (hdr ++ encodeNlas l) := by
  have hstarts : starts (insertEach l ins) = starts l := by
    rw [starts_eq_flatMap, starts_eq_flatMap]
    exact flatMap_insertEach fun p hp => if_neg fun h => (hins p hp).2 (List.mem_singleton.2 h)
  obtain ⟨header, hh, hdec⟩ := decode_encodeNlas hlen hl
  obtain ⟨header', hh', hdec'⟩ := decode_encodeNlas hlen (hl.insertEach hins)
  obtain rfl := Outcome.ok.inj (hh.symm.trans hh')
  rw [hdec, hdec', hstarts]

namespace RouteNetlinkMessage

variable {m : RouteNetlinkMessage} {t : UInt16}

/-- What is put in is of kinds that the family's parser does not name. -/
def unknownTo (ins : List (ℕ × UInt16 × Bytes)) : Families Prop where
  link _ := UnknownTo LinkAttribute.kinds ins
  address _ := UnknownTo AddressAttribute.kinds ins
  neighbour _ := UnknownTo NeighbourAttribute.kinds ins
  neighbourTable _ := UnknownTo NeighbourTableAttribute.kinds ins
  route _ := UnknownTo RouteAttribute.kinds ins
  prefixes _ := UnknownTo PrefixAttribute.kinds ins
  tc _ := UnknownTo TcAttribute.kinds ins
  tcAction _ := UnknownTo TcActionMessageAttribute.kinds ins
  mdb _ := UnknownTo MdbAttribute.kinds ins
  tunnel _ := UnknownTo [VXLAN_VNIFILTER_ENTRY] ins
  nexthop _ := UnknownTo NexthopAttribute.kinds ins
  nsid _ := UnknownTo NsidAttribute.kinds ins
  rule _ := UnknownTo RuleAttribute.kinds ins

/-- Attributes that are not known, added to a message at their places. -/
def unknownAdded (ins : List (ℕ × UInt16 × Bytes)) : Changes where
  link msg := msg.overAttributes (withOthers .other ins)
  address msg := msg.overAttributes (withOthers .other ins)
  neighbour msg := msg.overAttributes (withOthers .other ins)
  neighbourTable msg := msg.overAttributes (withOthers .other ins)
  route msg := msg.overAttributes (withOthers .other ins)
  prefixes msg := msg.overAttributes (withOthers .other ins)
  tc msg := msg.overAttributes (withOthers .other ins)
  tcAction msg := msg.overAttributes (withOthers .other ins)
  mdb msg := msg.overAttributes (withOthers MdbAttribute.unflagged ins)
  tunnel msg := msg
  nexthop msg := msg.overAttributes (withOthers .other ins)
  nsid msg := msg.overAttributes (withOthers .other ins)
  rule msg := msg.overAttributes (withOthers .other ins)

/-- Family by family, what was decoded without them is decoded with them
added. -/
theorem decodedFrom_unknownAdded (hl : Consistent l) : ((decodedFrom (hdr ++ encodeNlas l)).map₂
    And ((unknownTo ins).map₂ (fun P n => P ∧ hdr.length = n) headerLens)).Implies
      ((decodedFrom (hdr ++ encodeNlas (insertEach l ins))).comp (unknownAdded ins)) where
  link _ h := (LinkMessage.transparent h.2.2).decode_eq hl h.2.1 h.1
  address _ h := (AddressMessage.each.transparent h.2.2
    fun _ _ _ _ => AddressAttribute.parse_other).decode_eq hl h.2.1 h.1
  neighbour _ h := (NeighbourMessage.each.transparent h.2.2
    fun _ _ _ _ => NeighbourAttribute.parse_other).decode_eq hl h.2.1 h.1
  neighbourTable _ h := (NeighbourTableMessage.each.transparent h.2.2
    fun _ _ _ _ => NeighbourTableAttribute.parse_other).decode_eq hl h.2.1 h.1
  route _ h := (RouteMessage.transparent h.2.2).decode_eq hl h.2.1 h.1
  prefixes _ h := (PrefixMessage.each.transparent h.2.2
    fun _ _ _ _ => PrefixAttribute.parse_other).decode_eq hl h.2.1 h.1
  tc _ h := (TcMessage.transparent h.2.2).decode_eq hl h.2.1 h.1
  tcAction _ h := (TcActionMessage.transparent h.2.2).decode_eq hl h.2.1 h.1
  mdb _ h := (MdbMessage.each.transparent h.2.2
    fun _ _ _ _ => MdbAttribute.parse_other).decode_eq hl h.2.1 h.1
  tunnel _ h := (TunnelMessage.decode_insertEach h.2.2 hl h.2.1).trans h.1
  nexthop _ h := (NexthopMessage.each.transparent h.2.2
    fun _ _ _ _ => NexthopAttribute.parse_other).decode_eq hl h.2.1 h.1
  nsid _ h := (NsidMessage.each.transparent h.2.2
    fun _ _ _ _ => NsidAttribute.parse_other).decode_eq hl h.2.1 h.1
  rule _ h := (RuleMessage.each.transparent h.2.2
    fun _ _ _ _ => RuleAttribute.parse_other).decode_eq hl h.2.1 h.1

/-- **What is not known is kept, and nothing else is read differently for
it**, under every message type. -/
theorem deserialize_insertEach (hl : Consistent l) (hlen : hdr.length = m.headerLen)
    (hins : m.inFamily (unknownTo ins)) (h : deserialize t (hdr ++ encodeNlas l) = .ok m) :
    deserialize t (hdr ++ encodeNlas (insertEach l ins)) = .ok (m.change (unknownAdded ins)) := by
  obtain ⟨hprop, hm | hreq⟩ := holds_parseWithParam m h
  · obtain rfl := messageType_of_parseWithParam h
    have hdec := inFamily_mono (decodedFrom_unknownAdded hl) m (by simpa using ⟨hm, hins, hlen⟩)
    rw [← inFamily_change] at hdec
    have hboth := parseWithParam_of_decodedFrom (mt (isLinkProp_change m).1 hprop) hdec
    rwa [messageType_change] at hboth
  · have hlt := length_lt_of_requestOf hreq
    rw [List.length_append] at hlt
    omega

end RouteNetlinkMessage

end Messages

end

/-! ## On a little-endian host -/

section Kept

attribute [local instance] Reference.little

namespace RouteNetlinkMessage

/-- An address with a label is the same address when there is more behind
the label, and in front of it. -/
theorem labelled_insertEach : deserialize RTM_NEWADDR ([2, 8, 0, 254, 1, 0, 0, 0] ++
    encodeNlas (insertEach [(3, [108, 111, 0]), (8, [128, 0, 0, 0])] unknowns)) =
      .ok (.newAddress ⟨⟨.inet, 8, 0, .host, 1⟩,
        [.other ⟨0x62, []⟩, .label "lo", .other ⟨0x8063, [1, 2, 3]⟩, .flags 128]⟩) := by
  have hins : UnknownTo AddressAttribute.kinds unknowns := by
    unfold UnknownTo
    decide
  exact deserialize_insertEach (t := RTM_NEWADDR) (m := labelled) (by simp [Consistent]) rfl
    hins rfl

end RouteNetlinkMessage

end Kept

end NetlinkRoute
