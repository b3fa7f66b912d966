import NetlinkRoute.Address
import NetlinkRoute.Rule
import NetlinkRoute.Nsid
import NetlinkRoute.Mdb
import NetlinkRoute.Tunnel
import NetlinkRoute.Nexthop
import NetlinkRoute.NeighbourTable
import NetlinkRoute.Neighbour.Model
import NetlinkRoute.Link.Model.Attribute
import NetlinkRoute.Route.Model.Attribute
import NetlinkRoute.Tc.Model.Message
/-!
# Messages of all families — the model

What is sent over the socket is a message of one of thirteen types, under
one of forty-nine message types that say what to do with it. Four tables
go between the two: the message type of a variant, its length, its
emitter, and the parser, which is given the message type. For three
families the parser also takes a request that ends behind its first
bytes.
-/

namespace NetlinkRoute

open PacketUtils Emitter

abbrev RTM_NEWLINK : UInt16 := 16
abbrev RTM_DELLINK : UInt16 := 17
abbrev RTM_GETLINK : UInt16 := 18
abbrev RTM_SETLINK : UInt16 := 19
abbrev RTM_NEWADDR : UInt16 := 20
abbrev RTM_DELADDR : UInt16 := 21
abbrev RTM_GETADDR : UInt16 := 22
abbrev RTM_NEWROUTE : UInt16 := 24
abbrev RTM_DELROUTE : UInt16 := 25
abbrev RTM_GETROUTE : UInt16 := 26
abbrev RTM_NEWNEIGH : UInt16 := 28
abbrev RTM_DELNEIGH : UInt16 := 29
abbrev RTM_GETNEIGH : UInt16 := 30
abbrev RTM_NEWRULE : UInt16 := 32
abbrev RTM_DELRULE : UInt16 := 33
abbrev RTM_GETRULE : UInt16 := 34
abbrev RTM_NEWQDISC : UInt16 := 36
abbrev RTM_DELQDISC : UInt16 := 37
abbrev RTM_GETQDISC : UInt16 := 38
abbrev RTM_NEWTCLASS : UInt16 := 40
abbrev RTM_DELTCLASS : UInt16 := 41
abbrev RTM_GETTCLASS : UInt16 := 42
abbrev RTM_NEWTFILTER : UInt16 := 44
abbrev RTM_DELTFILTER : UInt16 := 45
abbrev RTM_GETTFILTER : UInt16 := 46
abbrev RTM_NEWACTION : UInt16 := 48
abbrev RTM_DELACTION : UInt16 := 49
abbrev RTM_GETACTION : UInt16 := 50
abbrev RTM_NEWPREFIX : UInt16 := 52
abbrev RTM_NEWNEIGHTBL : UInt16 := 64
abbrev RTM_GETNEIGHTBL : UInt16 := 66
abbrev RTM_SETNEIGHTBL : UInt16 := 67
abbrev RTM_NEWMDB : UInt16 := 84
abbrev RTM_DELMDB : UInt16 := 85
abbrev RTM_GETMDB : UInt16 := 86
abbrev RTM_NEWTUNNEL : UInt16 := 120
abbrev RTM_DELTUNNEL : UInt16 := 121
abbrev RTM_GETTUNNEL : UInt16 := 122
abbrev RTM_NEWNSID : UInt16 := 88
abbrev RTM_DELNSID : UInt16 := 89
abbrev RTM_GETNSID : UInt16 := 90
abbrev RTM_NEWCHAIN : UInt16 := 100
abbrev RTM_DELCHAIN : UInt16 := 101
abbrev RTM_GETCHAIN : UInt16 := 102
abbrev RTM_NEWNEXTHOP : UInt16 := 104
abbrev RTM_DELNEXTHOP : UInt16 := 105
abbrev RTM_GETNEXTHOP : UInt16 := 106
abbrev RTM_NEWLINKPROP : UInt16 := 108
abbrev RTM_DELLINKPROP : UInt16 := 109

/-- `RouteNetlinkMessage`. -/
inductive RouteNetlinkMessage where
  | newLink (msg : LinkMessage)
  | delLink (msg : LinkMessage)
  | getLink (msg : LinkMessage)
  | setLink (msg : LinkMessage)
  | newLinkProp (msg : LinkMessage)
  | delLinkProp (msg : LinkMessage)
  | newAddress (msg : AddressMessage)
  | delAddress (msg : AddressMessage)
  | getAddress (msg : AddressMessage)
  | newNeighbour (msg : NeighbourMessage)
  | getNeighbour (msg : NeighbourMessage)
  | delNeighbour (msg : NeighbourMessage)
  | newNeighbourTable (msg : NeighbourTableMessage)
  | getNeighbourTable (msg : NeighbourTableMessage)
  | setNeighbourTable (msg : NeighbourTableMessage)
  | newRoute (msg : RouteMessage)
  | delRoute (msg : RouteMessage)
  | getRoute (msg : RouteMessage)
  | newPrefix (msg : PrefixMessage)
  | newQueueDiscipline (msg : TcMessage)
  | delQueueDiscipline (msg : TcMessage)
  | getQueueDiscipline (msg : TcMessage)
  | newTrafficClass (msg : TcMessage)
  | delTrafficClass (msg : TcMessage)
  | getTrafficClass (msg : TcMessage)
  | newTrafficFilter (msg : TcMessage)
  | delTrafficFilter (msg : TcMessage)
  | getTrafficFilter (msg : TcMessage)
  | newTrafficAction (msg : TcActionMessage)
  | delTrafficAction (msg : TcActionMessage)
  | getTrafficAction (msg : TcActionMessage)
  | newTrafficChain (msg : TcMessage)
  | delTrafficChain (msg : TcMessage)
  | getTrafficChain (msg : TcMessage)
  | newMdb (msg : MdbMessage)
  | delMdb (msg : MdbMessage)
  | getMdb (msg : MdbMessage)
  | newTunnel (msg : TunnelMessage)
  | delTunnel (msg : TunnelMessage)
  | getTunnel (msg : TunnelMessage)
  | newNexthop (msg : NexthopMessage)
  | delNexthop (msg : NexthopMessage)
  | getNexthop (msg : NexthopMessage)
  | newNsId (msg : NsidMessage)
  | delNsId (msg : NsidMessage)
  | getNsId (msg : NsidMessage)
  | newRule (msg : RuleMessage)
  | delRule (msg : RuleMessage)
  | getRule (msg : RuleMessage)

namespace RouteNetlinkMessage

def messageType : RouteNetlinkMessage → UInt16
  | .newLink _ => RTM_NEWLINK
  | .delLink _ => RTM_DELLINK
  | .getLink _ => RTM_GETLINK
  | .setLink _ => RTM_SETLINK
  | .newLinkProp _ => RTM_NEWLINKPROP
  | .delLinkProp _ => RTM_DELLINKPROP
  | .newAddress _ => RTM_NEWADDR
  | .delAddress _ => RTM_DELADDR
  | .getAddress _ => RTM_GETADDR
  | .getNeighbour _ => RTM_GETNEIGH
  | .newNeighbour _ => RTM_NEWNEIGH
  | .delNeighbour _ => RTM_DELNEIGH
  | .getNeighbourTable _ => RTM_GETNEIGHTBL
  | .newNeighbourTable _ => RTM_NEWNEIGHTBL
  | .setNeighbourTable _ => RTM_SETNEIGHTBL
  | .newRoute _ => RTM_NEWROUTE
  | .delRoute _ => RTM_DELROUTE
  | .getRoute _ => RTM_GETROUTE
  | .newPrefix _ => RTM_NEWPREFIX
  | .newQueueDiscipline _ => RTM_NEWQDISC
  | .delQueueDiscipline _ => RTM_DELQDISC
  | .getQueueDiscipline _ => RTM_GETQDISC
  | .newTrafficClass _ => RTM_NEWTCLASS
  | .delTrafficClass _ => RTM_DELTCLASS
  | .getTrafficClass _ => RTM_GETTCLASS
  | .newTrafficFilter _ => RTM_NEWTFILTER
  | .delTrafficFilter _ => RTM_DELTFILTER
  | .getTrafficFilter _ => RTM_GETTFILTER
  | .newTrafficAction _ => RTM_NEWACTION
  | .delTrafficAction _ => RTM_DELACTION
  | .getTrafficAction _ => RTM_GETACTION
  | .newTrafficChain _ => RTM_NEWCHAIN
  | .delTrafficChain _ => RTM_DELCHAIN
  | .getTrafficChain _ => RTM_GETCHAIN
  | .getNsId _ => RTM_GETNSID
  | .newNsId _ => RTM_NEWNSID
  | .delNsId _ => RTM_DELNSID
  | .getRule _ => RTM_GETRULE
  | .newRule _ => RTM_NEWRULE
  | .delRule _ => RTM_DELRULE
  | .newNexthop _ => RTM_NEWNEXTHOP
  | .delNexthop _ => RTM_DELNEXTHOP
  | .getNexthop _ => RTM_GETNEXTHOP
  | .newMdb _ => RTM_NEWMDB
  | .delMdb _ => RTM_DELMDB
  | .getMdb _ => RTM_GETMDB
  | .newTunnel _ => RTM_NEWTUNNEL
  | .delTunnel _ => RTM_DELTUNNEL
  | .getTunnel _ => RTM_GETTUNNEL

variable [PacketUtils]

def bufferLen : RouteNetlinkMessage → ℕ
  | .newLink msg | .delLink msg | .getLink msg | .setLink msg | .newLinkProp msg
  | .delLinkProp msg =>
    LinkMessage.bufferLen msg
  | .newAddress msg | .delAddress msg | .getAddress msg => AddressMessage.format.bufferLen msg
  | .newNeighbour msg | .getNeighbour msg | .delNeighbour msg =>
    NeighbourMessage.format.bufferLen msg
  | .newNeighbourTable msg | .getNeighbourTable msg | .setNeighbourTable msg =>
    NeighbourTableMessage.format.bufferLen msg
  | .newRoute msg | .delRoute msg | .getRoute msg => msg.bufferLen
  | .newPrefix msg => PrefixMessage.format.bufferLen msg
  | .newQueueDiscipline msg | .delQueueDiscipline msg | .getQueueDiscipline msg
  | .newTrafficClass msg | .delTrafficClass msg | .getTrafficClass msg | .newTrafficFilter msg
  | .delTrafficFilter msg | .getTrafficFilter msg | .newTrafficChain msg | .delTrafficChain msg
  | .getTrafficChain msg =>
    TcMessage.bufferLen msg
  | .newNsId msg | .delNsId msg | .getNsId msg => NsidMessage.format.bufferLen msg
  | .newRule msg | .delRule msg | .getRule msg => RuleMessage.format.bufferLen msg
  | .newTrafficAction msg | .delTrafficAction msg | .getTrafficAction msg =>
    TcActionMessage.bufferLen msg
  | .newNexthop msg | .delNexthop msg | .getNexthop msg => NexthopMessage.format.bufferLen msg
  | .newMdb msg | .delMdb msg | .getMdb msg => MdbMessage.format.bufferLen msg
  | .newTunnel msg | .delTunnel msg | .getTunnel msg => msg.bufferLen

def emit : RouteNetlinkMessage → Emitter
  | .newLink msg | .delLink msg | .getLink msg | .setLink msg | .newLinkProp msg
  | .delLinkProp msg =>
    LinkMessage.emit msg
  | .newAddress msg | .delAddress msg | .getAddress msg => AddressMessage.format.emit msg
  | .getNeighbour msg | .newNeighbour msg | .delNeighbour msg => NeighbourMessage.format.emit msg
  | .getNeighbourTable msg | .newNeighbourTable msg | .setNeighbourTable msg =>
    NeighbourTableMessage.format.emit msg
  | .newRoute msg | .delRoute msg | .getRoute msg => msg.emit
  | .newPrefix msg => PrefixMessage.format.emit msg
  | .newQueueDiscipline msg | .delQueueDiscipline msg | .getQueueDiscipline msg
  | .newTrafficClass msg | .delTrafficClass msg | .getTrafficClass msg | .newTrafficFilter msg
  | .delTrafficFilter msg | .getTrafficFilter msg | .newTrafficChain msg | .delTrafficChain msg
  | .getTrafficChain msg =>
    TcMessage.emit msg
  | .newNsId msg | .delNsId msg | .getNsId msg => NsidMessage.format.emit msg
  | .newRule msg | .delRule msg | .getRule msg => RuleMessage.format.emit msg
  | .newTrafficAction msg | .delTrafficAction msg | .getTrafficAction msg =>
    TcActionMessage.emit msg
  | .newNexthop msg | .delNexthop msg | .getNexthop msg => NexthopMessage.format.emit msg
  | .newMdb msg | .delMdb msg | .getMdb msg => MdbMessage.format.emit msg
  | .newTunnel msg | .delTunnel msg | .getTunnel msg => msg.emit

/-! ## The parser -/

section Inner

variable {μ : Type}

/-- A family's message: the checked buffer, then its parser, both under one
context. -/
def parseChecked (buffer : String) (len : ℕ) (parse : Bytes → Outcome μ) (err : String)
    (buf : Bytes) : Outcome μ := do
  let buf ← (checkedBuffer buffer len buf).context err
  (parse buf).context err

/-- A family's message, where a buffer that does not hold the header may
still be a request that ends behind the address family. -/
def parseOrShort (buffer : String) (len : ℕ) (parse : Bytes → Outcome μ) (err : String)
    (short : Bool) (request : AddressFamily → μ) (buf : Bytes) : Outcome μ :=
  match checkedBuffer buffer len buf with
  | .ok buf => (parse buf).context err
  | .err e =>
    if short then do
      let family ← getU8 buf 0
      .ok (request (AddressFamily.codec.ofNum family))
    else .err e
  | .panic => .panic

end Inner

/-- The inner `match` of a family; its last arm is `unreachable!()`. -/
def variantOf (messageType : UInt16) (arms : List (UInt16 × RouteNetlinkMessage)) :
    Outcome RouteNetlinkMessage :=
  select messageType (arms.map fun arm => (arm.1, .ok arm.2)) .panic

/-- `RouteNetlinkMessage::parse_with_param`. -/
def parseWithParam (buf : Bytes) (messageType : UInt16) : Outcome RouteNetlinkMessage :=
  selectAny messageType [
    ([RTM_NEWLINK, RTM_GETLINK, RTM_DELLINK, RTM_SETLINK], do
      let msg ← parseOrShort LinkMessage.format.buffer LinkHeader.codec.len
        LinkMessage.format.parse "invalid link message"
        (buf.length = 4 ∧ messageType = RTM_GETLINK)
        (fun family => ⟨⟨family, 0, .netrom, 0, 0⟩, []⟩) buf
      variantOf messageType [(RTM_NEWLINK, .newLink msg), (RTM_GETLINK, .getLink msg),
        (RTM_DELLINK, .delLink msg), (RTM_SETLINK, .setLink msg)]),
    ([RTM_NEWADDR, RTM_GETADDR, RTM_DELADDR], do
      let msg ← parseOrShort AddressMessage.format.buffer AddressHeader.codec.len
        AddressMessage.format.parse "invalid link message"
        (buf.length = 4 ∧ messageType = RTM_GETADDR)
        (fun family => ⟨⟨family, 0, 0, .universe_, 0⟩, []⟩) buf
      variantOf messageType [(RTM_NEWADDR, .newAddress msg), (RTM_GETADDR, .getAddress msg),
        (RTM_DELADDR, .delAddress msg)]),
    ([RTM_NEWNEIGH, RTM_GETNEIGH, RTM_DELNEIGH], do
      let msg ← parseChecked NeighbourMessage.format.buffer NeighbourHeader.codec.len
        NeighbourMessage.format.parse "invalid neighbour message" buf
      variantOf messageType [(RTM_GETNEIGH, .getNeighbour msg), (RTM_NEWNEIGH, .newNeighbour msg),
        (RTM_DELNEIGH, .delNeighbour msg)]),
    ([RTM_NEWNEIGHTBL, RTM_GETNEIGHTBL, RTM_SETNEIGHTBL], do
      let msg ← parseChecked NeighbourTableMessage.format.buffer NeighbourTableHeader.codec.len
        NeighbourTableMessage.format.parse "invalid neighbour table message" buf
      variantOf messageType [(RTM_GETNEIGHTBL, .getNeighbourTable msg),
        (RTM_NEWNEIGHTBL, .newNeighbourTable msg), (RTM_SETNEIGHTBL, .setNeighbourTable msg)]),
    ([RTM_NEWROUTE, RTM_GETROUTE, RTM_DELROUTE], do
      let msg ← parseOrShort "RouteMessageBuffer" RouteHeader.bufferLen
        RouteMessage.parse "invalid route message"
        ((buf.length = 4 ∨ buf.length = 1) ∧ messageType = RTM_GETROUTE)
        (fun family => ⟨{ RouteHeader.default_ with addressFamily := family }, []⟩) buf
      variantOf messageType [(RTM_NEWROUTE, .newRoute msg), (RTM_GETROUTE, .getRoute msg),
        (RTM_DELROUTE, .delRoute msg)]),
    ([RTM_NEWPREFIX],
      .newPrefix <$> parseChecked PrefixMessage.format.buffer PrefixHeader.codec.len
        PrefixMessage.format.parse "invalid prefix message" buf),
    ([RTM_NEWRULE, RTM_GETRULE, RTM_DELRULE], do
      let msg ← parseChecked RuleMessage.format.buffer RuleHeader.codec.len
        RuleMessage.format.parse "invalid fib rule message" buf
      variantOf messageType [(RTM_NEWRULE, .newRule msg), (RTM_DELRULE, .delRule msg),
        (RTM_GETRULE, .getRule msg)]),
    ([RTM_NEWQDISC, RTM_DELQDISC, RTM_GETQDISC, RTM_NEWTCLASS, RTM_DELTCLASS, RTM_GETTCLASS,
        RTM_NEWTFILTER, RTM_DELTFILTER, RTM_GETTFILTER, RTM_NEWCHAIN, RTM_DELCHAIN,
        RTM_GETCHAIN], do
      let msg ← parseChecked TcMessage.format.buffer TcHeader.codec.len TcMessage.parse
        "invalid tc message" buf
      variantOf messageType [
        (RTM_NEWQDISC, .newQueueDiscipline msg), (RTM_DELQDISC, .delQueueDiscipline msg),
        (RTM_GETQDISC, .getQueueDiscipline msg), (RTM_NEWTCLASS, .newTrafficClass msg),
        (RTM_DELTCLASS, .delTrafficClass msg), (RTM_GETTCLASS, .getTrafficClass msg),
        (RTM_NEWTFILTER, .newTrafficFilter msg), (RTM_DELTFILTER, .delTrafficFilter msg),
        (RTM_GETTFILTER, .getTrafficFilter msg), (RTM_NEWCHAIN, .newTrafficChain msg),
        (RTM_DELCHAIN, .delTrafficChain msg), (RTM_GETCHAIN, .getTrafficChain msg)]),
    ([RTM_NEWACTION, RTM_DELACTION, RTM_GETACTION], do
      let msg ← parseChecked "TcActionMessageBuffer" TcActionMessageHeader.codec.len
        TcActionMessage.parse "invalid tc action message" buf
      variantOf messageType [(RTM_NEWACTION, .newTrafficAction msg),
        (RTM_DELACTION, .delTrafficAction msg), (RTM_GETACTION, .getTrafficAction msg)]),
    ([RTM_NEWNSID, RTM_GETNSID, RTM_DELNSID], do
      let msg ← parseChecked NsidMessage.format.buffer NsidHeader.codec.len
        NsidMessage.format.parse "invalid nsid message" buf
      variantOf messageType [(RTM_NEWNSID, .newNsId msg), (RTM_DELNSID, .delNsId msg),
        (RTM_GETNSID, .getNsId msg)]),
    ([RTM_NEWNEXTHOP, RTM_DELNEXTHOP, RTM_GETNEXTHOP], do
      let msg ← parseChecked NexthopMessage.format.buffer NexthopHeader.codec.len
        NexthopMessage.format.parse "invalid nexthop message" buf
      variantOf messageType [(RTM_NEWNEXTHOP, .newNexthop msg), (RTM_DELNEXTHOP, .delNexthop msg),
        (RTM_GETNEXTHOP, .getNexthop msg)]),
    ([RTM_NEWMDB, RTM_DELMDB, RTM_GETMDB], do
      let msg ← parseChecked MdbMessage.format.buffer MdbHeader.codec.len
        MdbMessage.format.parse "invalid MDB message" buf
      variantOf messageType [(RTM_NEWMDB, .newMdb msg), (RTM_DELMDB, .delMdb msg),
        (RTM_GETMDB, .getMdb msg)]),
    ([RTM_NEWTUNNEL, RTM_DELTUNNEL, RTM_GETTUNNEL], do
      let msg ← parseChecked "TunnelMessageBuffer" TunnelHeader.codec.len TunnelMessage.parse
        "invalid tunnel message" buf
      variantOf messageType [(RTM_NEWTUNNEL, .newTunnel msg), (RTM_DELTUNNEL, .delTunnel msg),
        (RTM_GETTUNNEL, .getTunnel msg)])]
    (.fail ("Unknown message type: " ++ toString messageType))

/-! ## As a payload -/

def serialize (m : RouteNetlinkMessage) : Emitter := m.emit

/-- Of the header, only the message type is used. -/
def deserialize (messageType : UInt16) (payload : Bytes) : Outcome RouteNetlinkMessage :=
  parseWithParam payload messageType

end RouteNetlinkMessage

end NetlinkRoute
