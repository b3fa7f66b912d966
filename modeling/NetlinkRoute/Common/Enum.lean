import NetlinkRoute.Common.Select
/-!
# Numbered enumerations

An enumeration of the program has a number on the wire, a table from
numbers to variants that ends in a catch-all, and a table back. The two
are written independently; `EnumCodec` holds both, with the proof that
the second inverts the first, so a pair that disagrees cannot be built.
-/

namespace NetlinkRoute

/-- An enumeration `α` with numbers in `κ`. -/
structure EnumCodec (κ α : Type) [DecidableEq κ] where
  /-- The arms of `From<κ> for α`. -/
  arms : List (κ × α)
  /-- Its catch-all. -/
  other : κ → α
  /-- `From<α> for κ`. -/
  toNum : α → κ
  toNum_arm : ∀ arm ∈ arms, toNum arm.2 = arm.1
  toNum_other : ∀ d, toNum (other d) = d

namespace EnumCodec

variable {κ α : Type} [DecidableEq κ] (c : EnumCodec κ α)

/-- `From<κ> for α`. -/
def ofNum (d : κ) : α := select d c.arms (c.other d)

/-- The value is the one its own number names: an `Other(n)` is not the
number of a named variant, and of two names for one number it is the one
the table gives. -/
def Canonical (v : α) : Prop := c.ofNum (c.toNum v) = v

instance [DecidableEq α] (v : α) : Decidable (c.Canonical v) := inferInstanceAs (Decidable (_ = _))

/-- **No number is lost.** -/
@[simp] theorem toNum_ofNum (d : κ) : c.toNum (c.ofNum d) = d :=
  select_ind (P := fun v => c.toNum v = d) (fun arm ha h => by rw [c.toNum_arm arm ha, h])
    fun _ => c.toNum_other d

/-- What was decoded is canonical. -/
@[simp] theorem canonical_ofNum (d : κ) : c.Canonical (c.ofNum d) := by
  rw [Canonical, toNum_ofNum]

/-- That is what being canonical says. -/
theorem Canonical.ofNum_toNum {c : EnumCodec κ α} {v : α} (h : c.Canonical v) :
    c.ofNum (c.toNum v) = v := h

end EnumCodec

end NetlinkRoute
