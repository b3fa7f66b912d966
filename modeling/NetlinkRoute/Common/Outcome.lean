import Mathlib.Algebra.Order.BigOperators.Group.List
import Mathlib.Algebra.Order.Ring.Nat
import Mathlib.Data.List.Forall2
import Mathlib.Data.List.Nodup
import Mathlib.Data.Nat.Bitwise
import Mathlib.Tactic.Common
/-!
# Outcomes — what a call of the program can come back with

A Rust function that returns a `Result` has three ways to end: `Ok`,
`Err`, and a panic, which an out-of-range index, a slice past the end or
an overflowing sum raises in a debug build. `Outcome` keeps the three
apart, so that "never panics" is a statement about a value and an early
return by `?` is the bind of a monad.

An error is the chain of messages that the caller sees, the last context
added first.
-/

namespace NetlinkRoute

/-- A decoding error: its messages, the outermost context first. -/
structure DecodeError where
  chain : List String
deriving DecidableEq, Repr

/-- The error made from one message. -/
def DecodeError.from (msg : String) : DecodeError := ⟨[msg]⟩

/-- The text `{}` gives for an error: its outermost message. -/
def DecodeError.display (e : DecodeError) : String := e.chain.headD ""

/-- How a call ends. -/
inductive Outcome (α : Type) where
  | ok (a : α)
  | err (e : DecodeError)
  | panic
deriving DecidableEq, Repr

namespace Outcome

variable {α β γ : Type}

/-- The rest of a function after a call whose value it needs: `?` hands an
error on, and a panic unwinds. -/
def bind : Outcome α → (α → Outcome β) → Outcome β
  | ok a, f => f a
  | err e, _ => err e
  | panic, _ => panic

instance : Monad Outcome where
  pure := ok
  bind := bind

/-- `Err(msg.into())`. -/
def fail (msg : String) : Outcome α := err (.from msg)

/-- `.context(msg)`: an error gains a message, all else passes. -/
def context (o : Outcome α) (msg : String) : Outcome α :=
  match o with
  | err e => err ⟨msg :: e.chain⟩
  | o => o

/-- `.context(format!(..))` where building the text can itself panic: the
text is built whether or not there is an error to attach it to. -/
def contextWith (o : Outcome α) (msg : Outcome String) : Outcome α :=
  match o, msg with
  | panic, _ => panic
  | _, panic => panic
  | o, ok s => o.context s
  | o, err _ => o

/-! ## Equations -/

variable (o : Outcome α) (f : α → Outcome β) (a : α) (e : DecodeError) (s : String)

@[simp] theorem pure_eq : (pure a : Outcome α) = ok a := rfl

@[simp] theorem ok_bind : (ok a >>= f) = f a := rfl

@[simp] theorem err_bind : ((err e : Outcome α) >>= f) = err e := rfl

@[simp] theorem panic_bind : ((panic : Outcome α) >>= f) = panic := rfl

@[simp] theorem map_ok (g : α → β) : g <$> ok a = ok (g a) := rfl

@[simp] theorem map_err (g : α → β) : g <$> (err e : Outcome α) = err e := rfl

@[simp] theorem map_panic (g : α → β) : g <$> (panic : Outcome α) = panic := rfl

@[simp] theorem context_ok : (ok a).context s = ok a := rfl

@[simp] theorem context_err : (err e : Outcome α).context s = err ⟨s :: e.chain⟩ := rfl

@[simp] theorem context_panic : (panic : Outcome α).context s = panic := rfl

instance : LawfulMonad Outcome := LawfulMonad.mk' Outcome
  (by intro _ x; cases x <;> rfl)
  (by intros; rfl)
  (by intro _ _ _ x _ _; cases x <;> rfl)

/-! ## Inversion: how a compound call comes back with a value -/

/-- Two steps come back when both do. -/
theorem bind_eq_ok {b : β} : (o >>= f) = ok b ↔ ∃ a, o = ok a ∧ f a = ok b := by
  cases o <;> simp

/-- They panic when the first does, or the second on what the first gives. -/
theorem bind_eq_panic : (o >>= f) = panic ↔ o = panic ∨ ∃ a, o = ok a ∧ f a = panic := by
  cases o <;> simp

/-- A call that cannot fail, before one that always panics. -/
theorem bind_eq_panic_of (ho : ∀ e, o ≠ err e) (hf : ∀ a, f a = panic) : (o >>= f) = panic := by
  cases o with
  | ok a => exact hf a
  | err e => exact absurd rfl (ho e)
  | panic => rfl

/-- Steps that do not panic do not together. -/
theorem bind_ne_panic (ho : o ≠ panic) (hf : ∀ a, f a ≠ panic) : (o >>= f) ≠ panic := by
  rw [Ne, bind_eq_panic]
  rintro (h | ⟨a, -, h⟩)
  · exact ho h
  · exact hf a h

/-- A value was made of one that came back. -/
theorem map_eq_ok {g : α → β} {b : β} : g <$> o = ok b ↔ ∃ a, o = ok a ∧ g a = b := by
  cases o <;> simp

@[simp] theorem map_eq_panic {g : α → β} : g <$> o = panic ↔ o = panic := by
  cases o <;> simp

@[simp] theorem context_eq_ok : o.context s = ok a ↔ o = ok a := by
  cases o <;> simp

@[simp] theorem context_eq_panic : o.context s = panic ↔ o = panic := by
  cases o <;> simp

/-- A refusal is an error: it is neither a panic nor a value. -/
@[simp] theorem fail_ne_panic : (fail s : Outcome α) ≠ panic := by simp [fail]

@[simp] theorem fail_ne_ok : (fail s : Outcome α) ≠ ok a := by simp [fail]

@[simp] theorem contextWith_ok_text : o.contextWith (ok s) = o.context s := by
  cases o <;> rfl

/-- A context whose text panics to be made is a panic, whatever it is put
around. -/
@[simp] theorem contextWith_panic_text : o.contextWith panic = panic := by
  cases o <;> rfl

/-! ## Postconditions

`o.Holds P`: if the call comes back with a value, the value has `P`. -/

/-- Every value the call can come back with has `P`. -/
def Holds (P : α → Prop) (o : Outcome α) : Prop := ∀ a, o = ok a → P a

section Holds

variable {P : α → Prop} {Q : β → Prop} {o : Outcome α} {f : α → Outcome β}

/-- What holds of an outcome holds of its value, and of an error or a panic
anything does. -/
@[simp] theorem holds_ok : (ok a).Holds P ↔ P a := by simp [Holds]

@[simp] theorem holds_err : (err e : Outcome α).Holds P := by simp [Holds]

@[simp] theorem holds_panic : (panic : Outcome α).Holds P := by simp [Holds]

@[simp] theorem holds_fail : (fail s : Outcome α).Holds P := by simp [Holds]

@[simp] theorem holds_true : o.Holds fun _ => True := fun _ _ => trivial

@[simp] theorem holds_map {g : α → β} : (g <$> o).Holds Q ↔ o.Holds fun a => Q (g a) := by
  cases o <;> simp

@[simp] theorem holds_context : (o.context s).Holds P ↔ o.Holds P := by
  cases o <;> simp

/-- What holds of two steps holds of the second on all that the first gives.
-/
theorem holds_bind : (o >>= f).Holds Q ↔ o.Holds fun a => (f a).Holds Q := by
  cases o <;> simp

/-- A weaker property holds where a stronger one does. -/
theorem Holds.mono {P' : α → Prop} (h : o.Holds P) (hi : ∀ a, P a → P' a) : o.Holds P' :=
  fun a ha => hi a (h a ha)

end Holds

end Outcome

end NetlinkRoute
