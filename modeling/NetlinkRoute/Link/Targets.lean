import NetlinkRoute.Common.Carried
import NetlinkRoute.Common.Reference
import NetlinkRoute.Link.RoundTrip.Bond
/-!
# Link — the targets of a bond

Targets are a list of attributes, and what is written of a list comes back.
The loop that reads them takes the addresses of its own family and goes on at
everything else, so a list that is read can be shorter than the one that is
there (`InfoBond.ReadsTargets`). Nothing is lost of it exactly where each
value is an address of the family, or the list breaks off, which is an error
(`InfoBond.keepsTargets`).
-/

namespace NetlinkRoute

open PacketUtils

section

variable [PacketUtils] {n : ℕ} {kind word : UInt16} {nb : NlaBuffer} {payload v : Bytes}

/-- The address in a value that has its length. -/
def targetOf (n : ℕ) (v : Bytes) : List (Octets n) :=
  if v.length = n then [Octets.ofBytes n v] else []

/-- The addresses of IPv4. -/
def pickV4 : IpAddr → List Ipv4Addr
  | .v4 addr => [addr]
  | _ => []

/-- The addresses of IPv6. -/
def pickV6 : IpAddr → List Ipv6Addr
  | .v6 addr => [addr]
  | _ => []

/-- An attribute is picked as an IPv4 target exactly by its four bytes. -/
theorem pickTarget_v4 (hc : Carries nb word v) : pickTarget pickV4 nb = .ok (targetOf 4 v) := by
  rw [pickTarget, hc.value, Outcome.ok_bind, targetOf]
  by_cases h4 : v.length = 4
  · rw [parseIp_four h4, if_pos h4]
    rfl
  rw [if_neg h4]
  by_cases h16 : v.length = 16
  · rw [parseIp_sixteen h16]
    rfl
  · obtain ⟨e, he⟩ := parseIp_other h4 h16
    rw [he]

/-- It is picked as an IPv6 target exactly by its sixteen. -/
theorem pickTarget_v6 (hc : Carries nb word v) : pickTarget pickV6 nb = .ok (targetOf 16 v) := by
  rw [pickTarget, hc.value, Outcome.ok_bind, targetOf]
  by_cases h16 : v.length = 16
  · rw [parseIp_sixteen h16, if_pos h16]
    rfl
  rw [if_neg h16]
  by_cases h4 : v.length = 4
  · rw [parseIp_four h4]
    rfl
  · obtain ⟨e, he⟩ := parseIp_other h4 h16
    rw [he]

omit [PacketUtils] in
/-- Of values that have the length, each gives its address. -/
theorem forall₂_targetOf {l : List (UInt16 × Bytes)} (h : ∀ a ∈ l, a.2.length = n) :
    List.Forall₂ (fun a addr => addr.val = a.2) l (l.flatMap fun a => targetOf n a.2) := by
  induction l with
  | nil => exact .nil
  | cons a l ih =>
    obtain ⟨ha, hl⟩ := List.forall_mem_cons.1 h
    rw [List.flatMap_cons, targetOf, if_pos ha]
    exact .cons (Octets.ofBytes_val ha) (ih hl)

namespace InfoBond

variable {mk : List (Octets n) → InfoBond}

/-- A list of targets is read, with everything else in it skipped, or it breaks
off. -/
def ReadsTargets (nb : NlaBuffer) (payload : Bytes) (mk : List (Octets n) → InfoBond) : Prop :=
  Intact payload ∧ parse nb = .ok (mk ((carried payload).flatMap fun a => targetOf n a.2)) ∨
    ¬ Intact payload ∧ ∃ e, parse nb = .err e

/-- An arm that goes over the targets with the addresses of one family. -/
theorem readsTargets_of_arm {pick : IpAddr → List (Octets n)} (err : String)
    (hpick : ∀ nb word v, Carries nb word v → pickTarget pick nb = .ok (targetOf n v))
    (harm : parse nb = (mk ∘ List.flatten) <$> parseEachWith err (pickTarget pick) payload) :
    ReadsTargets nb payload mk := by
  rw [ReadsTargets, harm]
  rcases parseEachWith_cases (f := pickTarget pick) (g := fun a => targetOf n a.2) hpick with
    ⟨h, hloop⟩ | ⟨h, e, hloop⟩
  · exact .inl ⟨h, by rw [hloop]; rfl⟩
  · exact .inr ⟨h, e, by rw [hloop]; rfl⟩

/-- The ARP targets of a bond are those picked from its payload. -/
theorem parse_arpIpTarget (hc : Carries nb word payload)
    (hk : word &&& NLA_TYPE_MASK = IFLA_BOND_ARP_IP_TARGET) :
    ReadsTargets nb payload arpIpTarget := by
  refine readsTargets_of_arm "invalid IFLA_BOND_ARP_IP_TARGET value"
    (fun _ _ _ => pickTarget_v4) ?_
  rw [parse, hc.bind, hk, select_of_find rfl]
  rfl

/-- So are the targets of neighbour solicitation. -/
theorem parse_nsIp6Target (hc : Carries nb word payload)
    (hk : word &&& NLA_TYPE_MASK = IFLA_BOND_NS_IP6_TARGET) :
    ReadsTargets nb payload nsIp6Target := by
  refine readsTargets_of_arm "invalid IFLA_BOND_NS_IP6_TARGET value"
    (fun _ _ _ => pickTarget_v6) ?_
  rw [parse, hc.bind, hk, select_of_find rfl]
  rfl

/-- No target is lost: each attribute gives one address, or there is an
error. -/
structure LosesNone (nb : NlaBuffer) (payload : Bytes) (mk : List (Octets n) → InfoBond) :
    Prop where
  kept : ∀ l, parse nb = .ok (mk l) →
    List.Forall₂ (fun a addr => addr.val = a.2) (carried payload) l
  rejected : (∃ a ∈ carried payload, a.2.length ≠ n) → ∃ e, parse nb = .err e

/-- A list loses no target exactly where each entry of it has the length of
its version. -/
theorem losesNone_iff (hread : ReadsTargets nb payload mk) (hinj : Function.Injective mk) :
    LosesNone nb payload mk ↔ (Intact payload → ∀ a ∈ carried payload, a.2.length = n) := by
  rcases hread with ⟨hintact, hok⟩ | ⟨hbroken, e, herr⟩
  · constructor
    · intro h _ a ha
      by_contra hne
      obtain ⟨e, he⟩ := h.rejected ⟨a, ha, hne⟩
      rw [hok] at he
      cases he
    · intro h
      refine ⟨fun l hl => ?_, fun ⟨a, ha, hne⟩ => absurd (h hintact a ha) hne⟩
      obtain rfl := hinj (Outcome.ok.inj (hok.symm.trans hl))
      exact forall₂_targetOf (h hintact)
  · refine iff_of_true ⟨fun l hl => ?_, fun _ => ⟨e, herr⟩⟩ fun h => absurd h hbroken
    rw [herr] at hl
    cases hl

/-- What is written of targets comes back, and what is read of them is all
there is exactly where all of it are targets. -/
structure KeepsTargets (kind : UInt16) (mk : List (Octets n) → InfoBond) : Prop where
  comesBack : ∀ addrs, (mk addrs).valueLen ≤ 65531 → RoundTrips parse (mk addrs).nla (mk addrs)
  losesNone_iff : ∀ nb word payload, Carries nb word payload → word &&& NLA_TYPE_MASK = kind →
    (LosesNone nb payload mk ↔ (Intact payload → ∀ a ∈ carried payload, a.2.length = n))

/-- **Nothing is lost exactly where there is nothing but targets.** -/
theorem keepsTargets : KeepsTargets IFLA_BOND_ARP_IP_TARGET arpIpTarget ∧
    KeepsTargets IFLA_BOND_NS_IP6_TARGET nsIp6Target where
  left := ⟨fun _ => roundTrips trivial, fun _ _ _ hc hk =>
    losesNone_iff (parse_arpIpTarget hc hk) fun _ _ => arpIpTarget.inj⟩
  right := ⟨fun _ => roundTrips trivial, fun _ _ _ hc hk =>
    losesNone_iff (parse_nsIp6Target hc hk) fun _ _ => nsIp6Target.inj⟩

end InfoBond

end

/-! ## On a little-endian host -/

namespace InfoBond

attribute [local instance] Reference.little

/-- A target, and a value that is too short for one. -/
def shortTarget : Bytes := [8, 0, 0, 0, 10, 0, 0, 1, 7, 0, 1, 0, 10, 0, 2, 0]

/-- The second one is left out. -/
theorem shortTarget_lost :
    parse (nlaOf (IFLA_BOND_ARP_IP_TARGET, shortTarget)) =
      .ok (arpIpTarget [⟨[10, 0, 0, 1], rfl⟩]) ∧
    ¬ LosesNone (nlaOf (IFLA_BOND_ARP_IP_TARGET, shortTarget)) shortTarget arpIpTarget := by
  have hok : parse (nlaOf (IFLA_BOND_ARP_IP_TARGET, shortTarget)) =
    .ok (arpIpTarget [⟨[10, 0, 0, 1], rfl⟩]) := rfl
  refine ⟨hok, fun h => ?_⟩
  obtain ⟨e, he⟩ := h.rejected ⟨(1, [10, 0, 2]), by decide, by decide⟩
  rw [hok] at he
  cases he

end InfoBond

end NetlinkRoute
