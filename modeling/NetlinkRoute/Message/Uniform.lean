import NetlinkRoute.Message.Model
import NetlinkRoute.Link.Message
import NetlinkRoute.Neighbour.Message
import NetlinkRoute.Route.Message
import NetlinkRoute.Tc.Message
/-!
# Messages of all families — what was in the buffer before

Most headers have a padding or a reserved field that their emitter passes
over, and its bytes go out as they were. The headers of addresses, routes,
next hops and multicast entries are written whole, and so are the
attributes of these, but for the padding that a counter of a local segment
routing action reserves (`serialize_agrees_iff`).
-/

namespace NetlinkRoute

open PacketUtils Emitter

namespace RouteNetlinkMessage

section

variable [FramesAll]

/-- The header is written whole, and no attribute reserves padding. -/
def Clean : RouteNetlinkMessage → Prop
  | .newAddress _ | .delAddress _ | .getAddress _ | .newMdb _ | .delMdb _ | .getMdb _ => True
  | .newRoute msg | .delRoute msg | .getRoute msg =>
    ∀ a ∈ msg.attributes, a.Everywhere RouteAttribute.Clean
  | .newNexthop msg | .delNexthop msg | .getNexthop msg => ∀ a ∈ msg.attributes, a.Clean
  | _ => False

/-- A message is written uniformly exactly when it is clean, where attributes
of any size are. -/
theorem uniform_serialize_iff {m : RouteNetlinkMessage} :
    Uniform m.serialize m.bufferLen ↔ m.Clean := by
  cases m with
  | newAddress msg | delAddress msg | getAddress msg =>
    exact iff_of_true (AddressMessage.uniform_emit fun _ _ => FramesAll.frames _) trivial
  | newMdb msg | delMdb msg | getMdb msg =>
    exact iff_of_true (MdbMessage.uniform_emit fun _ _ => FramesAll.frames _) trivial
  | newRoute msg | delRoute msg | getRoute msg =>
    exact RouteMessage.uniform_emit_iff fun _ _ => FramesAll.frames _
  | newNexthop msg | delNexthop msg | getNexthop msg =>
    exact NexthopMessage.uniform_emit_iff fun _ _ => FramesAll.frames _
  | newLink msg | delLink msg | getLink msg | setLink msg | newLinkProp msg | delLinkProp msg =>
    exact iff_of_false LinkMessage.not_uniform_emit id
  | newNeighbour msg | getNeighbour msg | delNeighbour msg =>
    exact iff_of_false NeighbourMessage.not_uniform_emit id
  | newNeighbourTable msg | getNeighbourTable msg | setNeighbourTable msg =>
    exact iff_of_false NeighbourTableMessage.not_uniform_emit id
  | newPrefix msg => exact iff_of_false PrefixMessage.not_uniform_emit id
  | newTrafficAction msg | delTrafficAction msg | getTrafficAction msg =>
    exact iff_of_false TcActionMessage.not_uniform_emit id
  | newTunnel msg | delTunnel msg | getTunnel msg =>
    exact iff_of_false TunnelMessage.not_uniform_emit id
  | newNsId msg | delNsId msg | getNsId msg => exact iff_of_false NsidMessage.not_uniform_emit id
  | newRule msg | delRule msg | getRule msg => exact iff_of_false RuleMessage.not_uniform_emit id
  | _ msg => exact iff_of_false TcMessage.not_uniform_emit id

/-- **Two buffers of a message's length hold the same bytes after it was
serialized into them, whatever they held before, exactly when the message
is clean.** -/
theorem serialize_agrees_iff (m : RouteNetlinkMessage) :
    (∀ b b' : Bytes, b.length = m.bufferLen → b'.length = m.bufferLen →
      ∃ out, m.serialize.run b = .ok out ∧ m.serialize.run b' = .ok out) ↔ m.Clean := by
  rw [← uniform_iff_agree, uniform_serialize_iff]

end

/-! ## On a little-endian host -/

section Concrete

attribute [local instance] Reference.little

/-- A request for all neighbours. -/
def askNeighbours : RouteNetlinkMessage := .getNeighbour ⟨⟨.inet, 0, .none, 0, .unspec⟩, []⟩

/-- Three bytes of it are what they were. -/
theorem askNeighbours_leaks :
    askNeighbours.serialize.run (zeros 12) = .ok [2, 0, 0, 0, 0, 0, 0, 0, 0, 0, 0, 0] ∧
    askNeighbours.serialize.run (List.replicate 12 255) =
      .ok [2, 255, 255, 255, 0, 0, 0, 0, 0, 0, 0, 0] ∧
    ¬ ∀ b b' : Bytes, b.length = askNeighbours.bufferLen → b'.length = askNeighbours.bufferLen →
      ∃ out, askNeighbours.serialize.run b = .ok out ∧
        askNeighbours.serialize.run b' = .ok out := by
  refine ⟨rfl, rfl, fun h => ?_⟩
  obtain ⟨out, hzeros, hold⟩ := h (zeros 12) (List.replicate 12 255) rfl rfl
  cases hzeros
  cases hold

end Concrete

end RouteNetlinkMessage

end NetlinkRoute
