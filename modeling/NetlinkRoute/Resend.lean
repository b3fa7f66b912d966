import NetlinkRoute.Mdb
import NetlinkRoute.Neighbour.Message
import NetlinkRoute.NeighbourTable
import NetlinkRoute.Nexthop
import NetlinkRoute.Nsid
import NetlinkRoute.Tunnel
/-!
# Messages that are read and sent back

A program that listens to the kernel decodes what it gets and may send it
back. `Resends` says that this is safe for a family of messages: the
decoder never panics, and a message that was accepted is written, and
accepted again as the same message. The families that the kernel keeps
its forwarding state in have it (`resends_forwarding`).
-/

namespace NetlinkRoute

open PacketUtils Emitter

/-- No byte string makes the decoder panic, and what it accepts, of the
size that fits, is written into a zeroed buffer and decoded again to the
same message. -/
structure Resends {μ : Type} (decode : Bytes → Outcome μ) (emit : μ → Emitter)
    (bufferLen : μ → ℕ) (Sized : μ → Prop) : Prop where
  decodes : ∀ b, decode b ≠ .panic
  stable : ∀ b m, decode b = .ok m → Sized m →
    ∃ out, (emit m).run (zeros (bufferLen m)) = .ok out ∧ decode out = .ok m

variable [PacketUtils]

/-- The families that are decoded attribute by attribute. -/
def MessageFormat.Resends {η α : Type} (F : MessageFormat η α) : Prop :=
  NetlinkRoute.Resends F.decode F.emit F.bufferLen F.Sized

/-- **Neighbours, neighbour tables, next hops, multicast groups, tunnel
filters and namespace ids can be read and sent back**, and the entries of
a multicast message are read without a panic. -/
theorem resends_forwarding :
    NeighbourMessage.format.Resends ∧ NeighbourTableMessage.format.Resends ∧
    NexthopMessage.format.Resends ∧ NsidMessage.format.Resends ∧
    (MdbMessage.format.Resends ∧
      ∀ b m, MdbMessage.format.decode b = .ok m → MdbMessage.entries m ≠ .panic) ∧
    Resends TunnelMessage.decode TunnelMessage.emit TunnelMessage.bufferLen (fun _ => True) := by
  have hmdb : ∀ m : MdbMessage, m.entries ≠ .panic := by
    intro m hp
    obtain ⟨l, hl⟩ := m.exists_entries
    rw [hl] at hp
    cases hp
  refine ⟨?_, ?_, ?_, ?_, ⟨?_, fun _ m _ => hmdb m⟩, ?_⟩
  · exact ⟨fun _ => NeighbourMessage.decode_ne_panic, fun _ _ => NeighbourMessage.decode_stable⟩
  · exact ⟨fun _ => NeighbourTableMessage.decode_ne_panic,
      fun _ _ => NeighbourTableMessage.decode_stable⟩
  · exact ⟨fun _ => NexthopMessage.decode_ne_panic, fun _ _ => NexthopMessage.decode_stable⟩
  · exact ⟨fun _ => NsidMessage.decode_ne_panic, fun _ _ => NsidMessage.decode_stable⟩
  · exact ⟨fun _ => MdbMessage.decode_ne_panic, fun _ _ => MdbMessage.decode_stable⟩
  · exact ⟨fun _ => TunnelMessage.decode_ne_panic, fun _ _ h _ => TunnelMessage.decode_stable h⟩

end NetlinkRoute
