import Mathlib.Data.List.Flatten
import NetlinkRoute.Mdb.Eattrs
/-!
# The tree of multicast database entries

The payload of `MDBA_MDB` is a tree of three levels: groups, the entries of
a group, and the attributes of an entry. The tree is modelled as it is
sent, with anything else that may stand between the attributes of a level
and behind them. The decoder finds its entries, each once and in order
(`parseMdbEntries_bytes`).
-/

namespace NetlinkRoute

open PacketUtils

/-! ## Trees -/

/-- One level as it is sent: what it is about, the attributes put in
between, each at its index, and the bytes behind all of them. -/
structure Level (α : Type) where
  items : List α
  others : List (ℕ × UInt16 × Bytes)
  tail : Bytes

/-- `MDBA_MDB_ENTRY_INFO`: the kind word, the fixed structure, and the
attributes behind it. -/
structure MdbInfo where
  word : UInt16
  entry : BrMdbEntry
  eattrs : Level (UInt16 × Bytes)

/-- `MDBA_MDB_ENTRY`: the kind word and the entries of a group. -/
structure MdbNode where
  word : UInt16
  infos : Level MdbInfo

/-- The payload of `MDBA_MDB`: groups. -/
structure MdbTree where
  nodes : Level MdbNode

section

variable [PacketUtils]

namespace Level

variable {α : Type} {nla : α → UInt16 × Bytes} {L : Level α}

/-- The attributes of a level. -/
def sent (nla : α → UInt16 × Bytes) (L : Level α) : List (UInt16 × Bytes) :=
  insertEach (L.items.map nla) L.others

/-- Its bytes. -/
def bytes (nla : α → UInt16 × Bytes) (L : Level α) : Bytes := encodeNlas (L.sent nla) ++ L.tail

/-- Everything fits its length word, and what is put in is nothing to the
decoder of the level. -/
structure Encodable (nla : α → UInt16 × Bytes) (Other : UInt16 × Bytes → Prop) (L : Level α) :
    Prop where
  items : ∀ x ∈ L.items, (nla x).2.length ≤ 65531
  others : ∀ p ∈ L.others, p.2.2.length ≤ 65531 ∧ Other p.2

/-- No attribute begins behind the level: nothing is there, or something cut
short or with a length that is not one. -/
def Closed (L : Level α) : Prop := ¬ NlaValid L.tail

instance : Decidable L.Closed := inferInstanceAs (Decidable (¬ _))

variable {Other : UInt16 × Bytes → Prop}

omit [PacketUtils] in
/-- What an encodable level sends fits its length words. -/
theorem Encodable.consistent (h : L.Encodable nla Other) : Consistent (L.sent nla) :=
  forall_mem_insertEach (List.forall_mem_map.2 h.items) fun p hp => (h.others p hp).1

/-- What the decoder of a level is run on. -/
theorem Encodable.carried_bytes (h : L.Encodable nla Other) :
    carried (L.bytes nla) = L.sent nla ++ carried L.tail :=
  carried_encodeNlas_append h.consistent

/-- **A level gives what its items give**, and then what is read behind
them. -/
theorem Encodable.flatMap_carried {β : Type} {g : UInt16 × Bytes → List β}
    (h : L.Encodable nla Other) (hother : ∀ a, Other a → g a = []) :
    (carried (L.bytes nla)).flatMap g =
      L.items.flatMap (fun x => g (nla x)) ++ (carried L.tail).flatMap g := by
  have hitems : (L.sent nla).flatMap g = L.items.flatMap fun x => g (nla x) := by
    rw [sent, flatMap_insertEach fun p hp => hother p.2 (h.others p hp).2, List.flatMap_map]
  rw [h.carried_bytes, List.flatMap_append, hitems]

end Level

namespace MdbInfo

/-- Its payload. -/
def value (i : MdbInfo) : Bytes := BrMdbEntry.codec.bytes i.entry ++ i.eattrs.bytes id

/-- The attribute. -/
def nla (i : MdbInfo) : UInt16 × Bytes := (i.word, i.value)

/-- The kinds of attributes that matter to an entry. -/
def kinds : List UInt16 :=
  [MDBA_MDB_EATTR_SOURCE, MDBA_MDB_EATTR_DST, MDBA_MDB_EATTR_VNI, MDBA_MDB_EATTR_SRC_VNI]

/-- The kind word says what it is, with any flags, and attributes of other
kinds stand among those of the entry. -/
structure Encodable (i : MdbInfo) : Prop where
  word : i.word &&& NLA_TYPE_MASK = MDBA_MDB_ENTRY_INFO
  eattrs : i.eattrs.Encodable id fun a => kindOf a ∉ kinds

/-- The entry: its own structure, and what its own attributes say. -/
def decoded (i : MdbInfo) : MdbEntry := .of i.entry i.eattrs.items

/-- What becomes of it when something is read behind its attributes. -/
def decodedOnto (i : MdbInfo) : MdbEntry := .of i.entry (i.eattrs.items ++ carried i.eattrs.tail)

end MdbInfo

namespace MdbNode

/-- Its payload. -/
def value (n : MdbNode) : Bytes := n.infos.bytes MdbInfo.nla

/-- The attribute. -/
def nla (n : MdbNode) : UInt16 × Bytes := (n.word, n.value)

/-- Among the entries of a group stand attributes of other kinds, and ones
that are too short. -/
structure Encodable (n : MdbNode) : Prop where
  word : n.word &&& NLA_TYPE_MASK = MDBA_MDB_ENTRY
  infos : n.infos.Encodable MdbInfo.nla fun a =>
    kindOf a ≠ MDBA_MDB_ENTRY_INFO ∨ a.2.length < BR_MDB_ENTRY_LEN
  items : ∀ i ∈ n.infos.items, i.Encodable

end MdbNode

namespace MdbTree

/-- Its bytes. -/
def bytes (T : MdbTree) : Bytes := T.nodes.bytes MdbNode.nla

structure Encodable (T : MdbTree) : Prop where
  nodes : T.nodes.Encodable MdbNode.nla fun a => kindOf a ≠ MDBA_MDB_ENTRY
  items : ∀ n ∈ T.nodes.items, n.Encodable

/-- Nothing begins behind any level. -/
structure Closed (T : MdbTree) : Prop where
  nodes : T.nodes.Closed
  infos : ∀ n ∈ T.nodes.items, n.infos.Closed
  eattrs : ∀ n ∈ T.nodes.items, ∀ i ∈ n.infos.items, i.eattrs.Closed

/-- The entries of all groups, in order. -/
def entries (T : MdbTree) : List MdbEntry :=
  T.nodes.items.flatMap fun n => n.infos.items.map MdbInfo.decoded

/-- The entries of all groups, where something may be read behind the
attributes of each. -/
def entriesOnto (T : MdbTree) : List MdbEntry :=
  T.nodes.items.flatMap fun n => n.infos.items.map MdbInfo.decodedOnto

end MdbTree

/-! ## What the decoder makes of any bytes -/

/-- The entry that an attribute of a group holds. -/
def infoEntries (a : UInt16 × Bytes) : List MdbEntry :=
  if kindOf a = MDBA_MDB_ENTRY_INFO then
    match parseEntryInfo a.2 with
    | .ok entry => entry.toList
    | _ => []
  else []

/-- The entries that an attribute of the tree holds. -/
def groupEntries (a : UInt16 × Bytes) : List MdbEntry :=
  if kindOf a = MDBA_MDB_ENTRY then (carried a.2).flatMap infoEntries else []

variable {nb : NlaBuffer} {word : UInt16} {v : Bytes}

/-- A carried group gives the entries of its infos. -/
theorem parseEntry_of_carries (hc : Carries nb word v) :
    parseEntry nb = .ok (groupEntries (word, v)) := by
  rw [parseEntry, hc.kind, Outcome.ok_bind, hc.value, groupEntries]
  by_cases hk : word &&& NLA_TYPE_MASK = MDBA_MDB_ENTRY
  · rw [if_neg (not_not.2 hk), if_pos hk, Outcome.ok_bind]
    refine eachOk_eq_flatMap fun info word v hi => ?_
    rw [hi.kind, Outcome.ok_bind, hi.value, infoEntries]
    by_cases hki : word &&& NLA_TYPE_MASK = MDBA_MDB_ENTRY_INFO
    · obtain ⟨entry, he⟩ := exists_parseEntryInfo v
      rw [if_neg (not_not.2 hki), if_pos hki, Outcome.ok_bind, he]
      rfl
    · rw [if_pos hki, if_neg hki]
  · rw [if_pos hk, if_neg hk]

/-- The entries of a payload are those of the attributes it carries, group
by group. -/
theorem parseMdbEntries_eq (raw : Bytes) :
    parseMdbEntries raw = .ok ((carried raw).flatMap groupEntries) :=
  eachOk_eq_flatMap fun _ _ _ => parseEntry_of_carries

/-- An info too short for its struct gives none. -/
theorem infoEntries_of_short (h : v.length < BR_MDB_ENTRY_LEN) : infoEntries (word, v) = [] := by
  rw [infoEntries, parseEntryInfo_of_lt h]
  exact ite_self []

/-! ## What it makes of a tree -/

/-- Attributes of other kinds say nothing, wherever they stand. -/
theorem MdbEattrs.ofList_insertEach {l t : List (UInt16 × Bytes)} {ins : List (ℕ × UInt16 × Bytes)}
    (h : ∀ p ∈ ins, kindOf p.2 ∉ MdbInfo.kinds) :
    MdbEattrs.ofList (insertEach l ins ++ t) = MdbEattrs.ofList (l ++ t) := by
  have haddr : ∀ k ∈ MdbInfo.kinds, ∀ p ∈ ins, payloadOf k p.2 = none :=
    fun k hk p hp => if_neg fun (heq : kindOf p.2 = k) => h p hp (heq ▸ hk)
  have hvni : ∀ p ∈ ins, vniOf p.2 = none := by
    refine fun p hp => if_neg fun ⟨hk, _⟩ => h p hp ?_
    rcases hk with hk | hk <;> rw [hk] <;> decide
  simp only [ofList, lastSome?_append, lastSome?_insertEach hvni,
    lastSome?_insertEach (haddr MDBA_MDB_EATTR_SOURCE (by decide)),
    lastSome?_insertEach (haddr MDBA_MDB_EATTR_DST (by decide))]

/-- A closed list of nested attributes leaves nothing of the default entry. -/
theorem MdbInfo.decodedOnto_of_closed {i : MdbInfo} (h : i.eattrs.Closed) :
    i.decodedOnto = i.decoded := by
  rw [decodedOnto, carried_of_not_valid h, List.append_nil, decoded]

/-- **An entry gives one entry**, from what is its own. -/
theorem infoEntries_nla {i : MdbInfo} (h : i.Encodable) : infoEntries i.nla = [i.decodedOnto] := by
  have hk : kindOf i.nla = MDBA_MDB_ENTRY_INFO := h.word
  have hof : MdbEattrs.ofList (carried (i.eattrs.bytes id)) =
      MdbEattrs.ofList (i.eattrs.items ++ carried i.eattrs.tail) := by
    rw [h.eattrs.carried_bytes, Level.sent, List.map_id]
    exact MdbEattrs.ofList_insertEach fun p hp => (h.eattrs.others p hp).2
  rw [infoEntries, if_pos hk, MdbInfo.nla, MdbInfo.value, parseEntryInfo_bytes, MdbEntry.of, hof]
  rfl

/-- **A group gives its entries**, and then what is read behind them. -/
theorem groupEntries_nla {n : MdbNode} (h : n.Encodable) :
    groupEntries n.nla = n.infos.items.map MdbInfo.decodedOnto ++
      (carried n.infos.tail).flatMap infoEntries := by
  have hk : kindOf n.nla = MDBA_MDB_ENTRY := h.word
  have hitems : n.infos.items.flatMap (fun i => infoEntries i.nla) =
      n.infos.items.map MdbInfo.decodedOnto := by
    rw [List.map_eq_flatMap]
    exact List.flatMap_congr fun i hi => infoEntries_nla (h.items i hi)
  rw [groupEntries, if_pos hk, ← hitems]
  refine h.infos.flatMap_carried fun a ha => ?_
  rcases ha with hkind | hshort
  · exact if_neg hkind
  · exact infoEntries_of_short hshort

/-- **A tree gives the entries of its groups in order**, after each group
what is read behind its entries. -/
theorem MdbTree.parseMdbEntries_eq {T : MdbTree} (h : T.Encodable) :
    parseMdbEntries T.bytes = .ok (T.nodes.items.flatMap (fun n =>
        n.infos.items.map MdbInfo.decodedOnto ++ (carried n.infos.tail).flatMap infoEntries) ++
      (carried T.nodes.tail).flatMap groupEntries) := by
  have hitems : T.nodes.items.flatMap (fun n => groupEntries n.nla) = T.nodes.items.flatMap fun n =>
      n.infos.items.map MdbInfo.decodedOnto ++ (carried n.infos.tail).flatMap infoEntries :=
    List.flatMap_congr fun n hn => groupEntries_nla (h.items n hn)
  rw [NetlinkRoute.parseMdbEntries_eq, ← hitems]
  exact congrArg Outcome.ok (h.nodes.flatMap_carried fun a ha => if_neg ha)

/-- The payload of a database attribute. -/
def MdbAttribute.database : MdbAttribute → Option Bytes
  | .mdbEntry raw => some raw
  | _ => none

/-- The payloads of the database attributes of a message, in order. -/
def MdbMessage.databases (m : MdbMessage) : List Bytes :=
  m.attributes.filterMap MdbAttribute.database

/-- **The entries of a message are those of its databases**, one after
another. -/
theorem MdbMessage.entries_eq (m : MdbMessage) :
    m.entries = List.flatten <$> forEach parseMdbEntries m.databases := by
  rw [MdbMessage.entries, databases]
  induction m.attributes with
  | nil => rfl
  | cons a as ih =>
    rw [List.filterMap_cons]
    cases a with
    | mdbEntry raw =>
      rw [MdbAttribute.database, flatten_forEach_cons, flatten_forEach_cons, ih,
        MdbAttribute.entries]
    | _ v =>
      refine Eq.trans ?_ ih
      rw [flatten_forEach_cons]
      cases forEach MdbAttribute.entries as <;> rfl

/-- **The tree comes back as the list of its entries.** -/
theorem parseMdbEntries_bytes {T : MdbTree} (h : T.Encodable) (m : MdbMessage) :
    (T.Closed → parseMdbEntries T.bytes = .ok T.entries) ∧
      (∃ out, parseMdbEntries T.bytes = .ok out ∧ T.entriesOnto.Sublist out) ∧
      m.entries = List.flatten <$> forEach parseMdbEntries m.databases := by
  refine ⟨fun hc => ?_, ⟨_, MdbTree.parseMdbEntries_eq h, ?_⟩, m.entries_eq⟩
  · -- behind no level anything is read
    rw [MdbTree.parseMdbEntries_eq h, carried_of_not_valid hc.nodes, List.flatMap_nil,
      List.append_nil, MdbTree.entries]
    congr 1
    refine List.flatMap_congr fun n hn => ?_
    rw [carried_of_not_valid (hc.infos n hn), List.flatMap_nil, List.append_nil]
    exact List.map_congr_left fun i hi => MdbInfo.decodedOnto_of_closed (hc.eattrs n hn i hi)
  · refine List.Sublist.trans ?_ (List.sublist_append_left _ _)
    exact List.Sublist.flatMap_right _ fun n _ => List.sublist_append_left _ _

end

/-! ## On a little-endian host -/

section

attribute [local instance] Reference.little

/-- One group with one entry, a short one in front of it, an attribute of
another kind at each level, and half a header behind each. -/
def noisyTree : MdbTree where
  nodes := {
    items := [{
      word := NLA_F_NESTED ||| MDBA_MDB_ENTRY
      infos := {
        items := [{
          word := MDBA_MDB_ENTRY_INFO
          entry := ⟨3, 1, 0, 10, Octets.ofBytes 16 [239, 1, 1, 1], ETH_P_IP, Octets.ofBytes 2 []⟩
          eattrs := {
            items := [(MDBA_MDB_EATTR_SOURCE, [10, 0, 0, 1])]
            others := [(0, 1, [0, 0, 0, 0])]
            tail := [8, 0] } }]
        others := [(0, MDBA_MDB_ENTRY_INFO, [0, 0])]
        tail := [8, 0] } }]
    others := [(1, 2, [])]
    tail := [8, 0] }

theorem noisyTree_entries :
    noisyTree.entries = [⟨3, 1, 0, 10, .v4 (Octets.ofBytes 4 [239, 1, 1, 1]),
      some (.v4 (Octets.ofBytes 4 [10, 0, 0, 1])), none, none⟩] ∧
    parseMdbEntries noisyTree.bytes = .ok noisyTree.entries := by
  refine ⟨by decide, (parseMdbEntries_bytes (T := noisyTree) ⟨⟨by decide, by decide⟩, ?_⟩
    ⟨⟨.unspec, 0⟩, []⟩).1 ⟨by decide, ?_, ?_⟩⟩
  all_goals intro n hn
  all_goals obtain rfl := List.mem_singleton.1 hn
  · refine ⟨by decide, ⟨by decide, by decide⟩, fun i hi => ?_⟩
    obtain rfl := List.mem_singleton.1 hi
    exact ⟨by decide, by decide, by decide⟩
  · decide
  · decide

end

end NetlinkRoute
