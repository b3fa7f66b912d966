import NetlinkRoute.Common.Carried
import NetlinkRoute.Common.Fitted
import NetlinkRoute.Link.RoundTrip.Attribute
/-!
# Link — structures of another version

Six structures are read from payloads of any length: what is short is filled
up with zeros first, and what is long is read no further than the program
knows it. None of them fails, and each is written back to the bytes that its
fields were read from (`LinkAttribute.tolerant`). Two of them have room for
words that they have no field for, and these are written as zeros.
-/

namespace NetlinkRoute

open PacketUtils Emitter

/-! ## What the fields cover -/

section

variable [Host]

/-- The statistics of a link cover their whole struct. -/
theorem Stats.covered : Covered Stats.codec.parse Stats.codec.bytes 96 96 := by
  refine @StructCodec.covered _ 4 24 (fun x => ne.u32 (ne.toU32 x)) Stats.codec
    (fun _ => u32_toU32 ne) rfl fun b hb => ?_
  simp (disch := exact fits_of_le hb rfl) only [Stats.codec, getU32_of_le, Outcome.ok_bind,
    Outcome.pure_eq]
  exact ⟨_, rfl, rfl⟩

/-- So do those of 64 bits. -/
theorem Stats64.covered : Covered Stats64.codec.parse Stats64.codec.bytes 200 200 := by
  refine @StructCodec.covered _ 8 25 (fun x => ne.u64 (ne.toU64 x)) Stats64.codec
    (fun _ => u64_toU64 ne) rfl fun b hb => ?_
  simp (disch := exact fits_of_le hb rfl) only [Stats64.codec, getU64_of_le, Outcome.ok_bind,
    Outcome.pure_eq]
  exact ⟨_, rfl, rfl⟩

/-- The IPv4 configuration covers its whole struct. -/
theorem InetDevConf.covered : Covered InetDevConf.codec.parse InetDevConf.codec.bytes 132 132 := by
  refine @StructCodec.covered _ 4 33 (fun x => ne.i32 (ne.toI32 x)) InetDevConf.codec
    (fun _ => i32_toI32 ne) rfl fun b hb => ?_
  simp (disch := exact fits_of_le hb rfl) only [InetDevConf.codec, getI32_of_le, Outcome.ok_bind,
    Outcome.pure_eq]
  exact ⟨_, rfl, rfl⟩

/-- So does the one of IPv6. -/
theorem Inet6DevConf.covered :
    Covered Inet6DevConf.codec.parse Inet6DevConf.codec.bytes 240 240 := by
  refine @StructCodec.covered _ 4 60 (fun x => ne.i32 (ne.toI32 x)) Inet6DevConf.codec
    (fun _ => i32_toI32 ne) rfl fun b hb => ?_
  simp (disch := exact fits_of_le hb rfl) only [Inet6DevConf.codec, Inet6DevConf.parse,
    getI32_of_le, Outcome.ok_bind, Outcome.pure_eq]
  exact ⟨_, rfl, rfl⟩

/-- The IPv6 statistics read 36 of their 38 words. -/
theorem Inet6Stats.covered : Covered Inet6Stats.codec.parse Inet6Stats.codec.bytes 304 288 := by
  refine @HeaderCodec.covered _ 8 36 (fun x => ne.i64 (ne.toI64 x)) Inet6Stats.codec
    (fun _ => i64_toI64 ne) (fun _ => trivial) (fun v => by simp [Inet6Stats.codec, Tiles])
    (Nat.le_of_ble_eq_true rfl) fun b hb => ?_
  simp (disch := exact fits_of_le hb rfl) only [Inet6Stats.codec, getI64_of_le, Outcome.ok_bind,
    Outcome.pure_eq]
  exact ⟨_, rfl, rfl⟩

/-- The ICMP statistics read six of their seven. -/
theorem Icmp6Stats.covered : Covered Icmp6Stats.codec.parse Icmp6Stats.codec.bytes 56 48 := by
  refine @HeaderCodec.covered _ 8 6 (fun x => ne.i64 (ne.toI64 x)) Icmp6Stats.codec
    (fun _ => i64_toI64 ne) (fun _ => trivial) (fun v => by simp [Icmp6Stats.codec, Tiles])
    (Nat.le_of_ble_eq_true rfl) fun b hb => ?_
  simp (disch := exact fits_of_le hb rfl) only [Icmp6Stats.codec, getI64_of_le, Outcome.ok_bind,
    Outcome.pure_eq]
  exact ⟨_, rfl, rfl⟩

end

/-! ## Attributes -/

/-- What a struct reads of an expanded payload is the payload fitted to its
size. -/
theorem take_expandBufferIfSmall {p : Bytes} {n : ℕ} :
    (expandBufferIfSmall p n).take n = fitted n p := by
  rw [expandBufferIfSmall]
  split
  · next h =>
    rw [fitted]
  · next h =>
    rw [fitted_of_le_length (Nat.not_lt.1 h)]

section

variable [PacketUtils] {α β : Type} {kind : UInt16} {mk : α → β} {read : Bytes → Outcome α}
  {write : α → Emitter} {bytes : α → Bytes} {parse : NlaBuffer → Outcome β} {len inner : ℕ}

/-- Attributes of a kind are read as a structure of `len` bytes, whatever they
have of it, and it is written back to the first `inner` of these. -/
structure Tolerant (parse : NlaBuffer → Outcome β) (kind : UInt16) (mk : α → β)
    (read : Bytes → Outcome α) (write : α → Emitter) (len inner : ℕ) : Prop where
  decodes : ∀ nb word p, Carries nb word p → word &&& NLA_TYPE_MASK = kind →
    ∃ v, parse nb = .ok (mk v) ∧ read (fitted len p) = .ok v ∧
      Fills (write v) len ((fitted len p).take inner ++ zeros (len - inner))
  same : ∀ nb nb' word p, Carries nb word p → Carries nb' word (fitted len p) →
    word &&& NLA_TYPE_MASK = kind → parse nb = parse nb'

/-- An arm that fills up what it reads. -/
theorem Covered.tolerant_of_arm (h : Covered read bytes len inner)
    (hwrite : ∀ v, Fills (write v) len (bytes v))
    (harm : ∀ nb word p, Carries nb word p → word &&& NLA_TYPE_MASK = kind →
      ∀ v, read (expandBufferIfSmall p len) = .ok v → parse nb = .ok (mk v)) :
    Tolerant parse kind mk read write len inner := by
  have hdecodes : ∀ nb word p, Carries nb word p → word &&& NLA_TYPE_MASK = kind →
      ∃ v, parse nb = .ok (mk v) ∧ read (fitted len p) = .ok v ∧
        Fills (write v) len ((fitted len p).take inner ++ zeros (len - inner)) := by
    intro nb word p hc hk
    obtain ⟨v, hv, hbytes⟩ := h.exists_read (expandBufferIfSmall p len)
      le_length_expandBufferIfSmall
    refine ⟨v, harm nb word p hc hk v hv, ?_, ?_⟩
    · rw [← take_expandBufferIfSmall, h.read_take le_length_expandBufferIfSmall, hv]
    · rw [← take_expandBufferIfSmall, List.take_take, Nat.min_eq_left h.le, ← hbytes]
      exact hwrite v
  refine ⟨hdecodes, fun nb nb' word p hc hc' hk => ?_⟩
  obtain ⟨v, hparse, hv, -⟩ := hdecodes nb word p hc hk
  obtain ⟨v', hparse', hv', -⟩ := hdecodes nb' word _ hc' hk
  rw [fitted_fitted, hv] at hv'
  rw [hparse, hparse', Outcome.ok.inj hv']

end

section

variable [PacketUtils]

namespace LinkAttribute

variable {family : AddressFamily}

/-- The statistics of a link are read whatever the length of their payload. -/
theorem tolerant_stats : Tolerant (parseWithParam family) IFLA_STATS .stats Stats.codec.parse
    Stats.codec.emit 96 96 := by
  refine Stats.covered.tolerant_of_arm (fun _ => Stats.codec.writes_emit.fills)
    fun nb word p hc hk v hv => ?_
  rw [parseWithParam, parseOver, hc.bind, hk, select_of_find rfl]
  show stats <$> (Stats.codec.parse (expandBufferIfSmall p 96)).context _ = _
  rw [hv]
  rfl

/-- So are those of 64 bits. -/
theorem tolerant_stats64 : Tolerant (parseWithParam family) IFLA_STATS64 .stats64
    Stats64.codec.parse Stats64.codec.emit 200 200 := by
  refine Stats64.covered.tolerant_of_arm (fun _ => Stats64.codec.writes_emit.fills)
    fun nb word p hc hk v hv => ?_
  rw [parseWithParam, parseOver, hc.bind, hk, select_of_find rfl]
  show stats64 <$> (Stats64.codec.parse (expandBufferIfSmall p 200)).context _ = _
  rw [hv]
  rfl

end LinkAttribute

/-- The IPv4 configuration is read whatever the length of its payload. -/
theorem AfSpecInet.tolerant_devConf : Tolerant parse IFLA_INET_CONF .devConf
    InetDevConf.codec.parse InetDevConf.codec.emit 132 132 := by
  refine InetDevConf.covered.tolerant_of_arm (fun _ => InetDevConf.codec.writes_emit.fills)
    fun nb word p hc hk v hv => ?_
  rw [parse, hc.bind, hk, select_of_find rfl]
  show devConf <$> InetDevConf.codec.parse (expandBufferIfSmall p 132) = _
  rw [hv]
  rfl

namespace AfSpecInet6

/-- So is the one of IPv6. -/
theorem tolerant_devConf : Tolerant parse IFLA_INET6_CONF .devConf Inet6DevConf.codec.parse
    Inet6DevConf.codec.emit 240 240 := by
  refine Inet6DevConf.covered.tolerant_of_arm (fun _ => Inet6DevConf.codec.writes_emit.fills)
    fun nb word p hc hk v hv => ?_
  rw [parse, hc.bind, hk, select_of_find rfl]
  show devConf <$> (Inet6DevConf.codec.parse (expandBufferIfSmall p 240)).context _ = _
  rw [hv]
  rfl

/-- The IPv6 statistics are, and write back the words they read. -/
theorem tolerant_stats : Tolerant parse IFLA_INET6_STATS .stats Inet6Stats.codec.parse
    Inet6Stats.codec.emit 304 288 := by
  refine Inet6Stats.covered.tolerant_of_arm (fun _ => Inet6Stats.codec.fills_emit)
    fun nb word p hc hk v hv => ?_
  rw [parse, hc.bind, hk, select_of_find rfl]
  show stats <$> (Inet6Stats.codec.parse (expandBufferIfSmall p 304)).context _ = _
  rw [hv]
  rfl

/-- The ICMP statistics do the same. -/
theorem tolerant_icmp6Stats : Tolerant parse IFLA_INET6_ICMP6STATS .icmp6Stats
    Icmp6Stats.codec.parse Icmp6Stats.codec.emit 56 48 := by
  refine Icmp6Stats.covered.tolerant_of_arm (fun _ => Icmp6Stats.codec.fills_emit)
    fun nb word p hc hk v hv => ?_
  rw [parse, hc.bind, hk, select_of_find rfl]
  show icmp6Stats <$> (Icmp6Stats.codec.parse (expandBufferIfSmall p 56)).context _ = _
  rw [hv]
  rfl

end AfSpecInet6

/-- **Structures of any version are read, and written back to what was read.** -/
theorem LinkAttribute.tolerant (family : AddressFamily) :
    Tolerant (parseWithParam family) IFLA_STATS .stats Stats.codec.parse Stats.codec.emit 96 96 ∧
    Tolerant (parseWithParam family) IFLA_STATS64 .stats64 Stats64.codec.parse
      Stats64.codec.emit 200 200 ∧
    Tolerant AfSpecInet.parse IFLA_INET_CONF .devConf InetDevConf.codec.parse
      InetDevConf.codec.emit 132 132 ∧
    Tolerant AfSpecInet6.parse IFLA_INET6_CONF .devConf Inet6DevConf.codec.parse
      Inet6DevConf.codec.emit 240 240 ∧
    Tolerant AfSpecInet6.parse IFLA_INET6_STATS .stats Inet6Stats.codec.parse
      Inet6Stats.codec.emit 304 288 ∧
    Tolerant AfSpecInet6.parse IFLA_INET6_ICMP6STATS .icmp6Stats Icmp6Stats.codec.parse
      Icmp6Stats.codec.emit 56 48 :=
  ⟨tolerant_stats, tolerant_stats64, AfSpecInet.tolerant_devConf, AfSpecInet6.tolerant_devConf,
    AfSpecInet6.tolerant_stats, AfSpecInet6.tolerant_icmp6Stats⟩

end

end NetlinkRoute
