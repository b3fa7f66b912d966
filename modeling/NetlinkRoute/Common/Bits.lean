import Mathlib.Algebra.Order.Ring.Nat
import Mathlib.Data.List.Pairwise
/-!
# Words as sets of bits

A set of flags is a word, and the union of sets the bitwise or of the words.
Adding the words counts each bit as often as it is set, so a sum is never
less than the union (`bitUnion_le_sum`), and it is the union exactly where
no two words share a bit (`sum_eq_bitUnion_iff`).
-/

namespace NetlinkRoute

section

variable {α : Type} [OfNat α 0]

/-- The bits that are set in one of the words. -/
def bitUnion [OrOp α] (l : List α) : α := l.foldr (· ||| ·) 0

/-- No bit is set in both words. -/
def BitDisjoint [AndOp α] (a b : α) : Prop := a &&& b = 0

instance [AndOp α] [DecidableEq α] (a b : α) : Decidable (BitDisjoint a b) :=
  inferInstanceAs (Decidable (_ = _))

@[simp] theorem bitUnion_nil [OrOp α] : bitUnion ([] : List α) = 0 := rfl

@[simp] theorem bitUnion_cons [OrOp α] {a : α} {l : List α} :
    bitUnion (a :: l) = a ||| bitUnion l := rfl

end

/-! ## Numbers -/

section

variable {a b : ℕ} {l : List ℕ}

/-- **What is set in one and what is set in both** add up to the sum. -/
theorem or_add_and (a b : ℕ) : (a ||| b) + (a &&& b) = a + b := by
  induction a using Nat.strongRecOn generalizing b with
  | ind a ih =>
    rcases Nat.eq_zero_or_pos a with rfl | ha
    · simp
    · -- the last bit, and the bits in front of it
      have hhalf := ih (a / 2) (by omega) (b / 2)
      rw [← Nat.or_div_two, ← Nat.and_div_two] at hhalf
      have hor : (a ||| b) % 2 = 1 ↔ a % 2 = 1 ∨ b % 2 = 1 := Nat.or_mod_two_eq_one
      have hand : (a &&& b) % 2 = 1 ↔ a % 2 = 1 ∧ b % 2 = 1 := Nat.and_mod_two_eq_one
      omega

/-- A number shares no bit with a union when it shares none with its parts. -/
theorem bitDisjoint_bitUnion_iff : BitDisjoint a (bitUnion l) ↔ ∀ b ∈ l, BitDisjoint a b := by
  induction l with
  | nil => simp [BitDisjoint]
  | cons b l ih =>
    rw [List.forall_mem_cons, ← ih, bitUnion_cons, BitDisjoint, Nat.and_or_distrib_left,
      Nat.or_eq_zero_iff]
    rfl

/-- A bit that is in two words is counted twice. -/
theorem bitUnion_le_sum (l : List ℕ) : bitUnion l ≤ l.sum := by
  induction l with
  | nil => exact Nat.le_refl 0
  | cons a l ih =>
    have hadd := or_add_and a (bitUnion l)
    rw [bitUnion_cons, List.sum_cons]
    omega

/-- **A sum is the union exactly where no bit is counted twice.** -/
theorem sum_eq_bitUnion_iff : l.sum = bitUnion l ↔ l.Pairwise BitDisjoint := by
  induction l with
  | nil => simp
  | cons a l ih =>
    have hadd := or_add_and a (bitUnion l)
    have hle := bitUnion_le_sum l
    rw [List.pairwise_cons, ← bitDisjoint_bitUnion_iff, ← ih, bitUnion_cons, List.sum_cons,
      BitDisjoint]
    omega

end

/-! ## Machine words -/

section

variable {a b : UInt32} {l : List UInt32}

/-- The union of words, as a number. -/
theorem toNat_bitUnion : (bitUnion l).toNat = bitUnion (l.map UInt32.toNat) := by
  induction l with
  | nil => rfl
  | cons a l ih => rw [bitUnion_cons, UInt32.toNat_or, ih, List.map_cons, bitUnion_cons]

/-- Words share no bit when their numbers do not. -/
theorem bitDisjoint_toNat_iff : BitDisjoint a.toNat b.toNat ↔ BitDisjoint a b := by
  rw [BitDisjoint, BitDisjoint, ← UInt32.toNat_inj, UInt32.toNat_and]
  rfl

/-- The bits inside a mask and those outside of it add up to the word. -/
theorem toNat_and_add_toNat_and_not (a m : UInt32) :
    (a &&& m).toNat + (a &&& ~~~m).toNat = a.toNat := by
  have hor : a &&& m ||| a &&& ~~~m = a := by
    rw [← UInt32.toBitVec_inj, UInt32.toBitVec_or, UInt32.toBitVec_and, UInt32.toBitVec_and,
      UInt32.toBitVec_not, ← BitVec.and_or_distrib_left, BitVec.or_not_self, BitVec.and_allOnes]
  have hand : (a &&& m) &&& (a &&& ~~~m) = 0 := by
    calc (a &&& m) &&& (a &&& ~~~m) = (a &&& a) &&& (m &&& ~~~m) := by ac_rfl
      _ = 0 := by rw [UInt32.and_not_self, UInt32.and_zero]
  rw [← or_add_and, ← UInt32.toNat_or, ← UInt32.toNat_and, hor, hand]
  rfl

end

end NetlinkRoute
