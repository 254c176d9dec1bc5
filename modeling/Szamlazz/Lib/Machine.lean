import Mathlib.Algebra.Order.Ring.Int
import Mathlib.Tactic.Common

/-!
# Integers of a machine word

The integers of a fixed width, and the two ways a program computes with them.
A *checked* operation says when its result does not fit; an unchecked one panics
(`Panic`), so that a computation with unchecked operations is one that may end
without a result. Results are exact integers throughout: what the width does is
decide whether there is one.
-/

namespace Machine

/-- A computation was aborted: a result did not fit its word. -/
inductive Panic where
  | overflow
deriving DecidableEq

/-- The integers of a signed word. -/
def Signed (w : ℕ) (z : ℤ) : Prop := -2 ^ (w - 1) ≤ z ∧ z < 2 ^ (w - 1)

instance (w : ℕ) (z : ℤ) : Decidable (Signed w z) := inferInstanceAs (Decidable (_ ∧ _))

/-- A checked operation with this exact result. -/
def checked (w : ℕ) (z : ℤ) : Option ℤ := if Signed w z then some z else none

/-- A checked conversion to an unsigned word. -/
def checkedUnsigned (w : ℕ) (z : ℤ) : Option ℕ := if 0 ≤ z ∧ z < 2 ^ w then some z.toNat else none

/-- An unchecked operation on signed words with this exact result. -/
def signed (w : ℕ) (z : ℤ) : Except Panic ℤ := if Signed w z then .ok z else .error .overflow

/-- An unchecked operation on unsigned words with this exact result. -/
def unsigned (w : ℕ) (z : ℤ) : Except Panic ℕ :=
  if 0 ≤ z ∧ z < 2 ^ w then .ok z.toNat else .error .overflow

/-- An error ends what follows. -/
@[simp] theorem error_bind {ε α β : Type} (e : ε) (f : α → Except ε β) :
    (Except.error e >>= f) = .error e := rfl

/-- A result goes on. -/
@[simp] theorem ok_bind {ε α β : Type} (a : α) (f : α → Except ε β) :
    (Except.ok a >>= f) = f a := rfl

/-- A missing value is this error. -/
def okOr {ε α : Type} (o : Option α) (e : ε) : Except ε α := o.elim (.error e) .ok

/-- A value is there. -/
theorem okOr_some {ε α : Type} (a : α) (e : ε) : okOr (some a) e = .ok a := rfl

/-- Without one there is the error. -/
theorem okOr_none {ε α : Type} (e : ε) : okOr (none : Option α) e = .error e := rfl

/-- What goes on had its value. -/
theorem okOr_bind_eq_ok {ε α β : Type} {o : Option α} {e : ε} {f : α → Except ε β} {b : β}
    (h : (okOr o e >>= f) = .ok b) : ∃ a, o = some a ∧ f a = .ok b := by
  cases o with
  | none => exact absurd h (by simp [okOr, bind, Except.bind])
  | some a => exact ⟨a, rfl, h⟩

/-- The result of a computation that is not aborted. -/
def get {α : Type} : (x : Except Panic α) → (∃ a, x = .ok a) → α
  | .ok a, _ => a
  | .error _, h => absurd h (by simp)

/-- A computation that does not panic has its result. -/
theorem eq_ok_get {α : Type} {x : Except Panic α} (h : ∃ a, x = .ok a) : x = .ok (get x h) := by
  obtain ⟨a, rfl⟩ := h
  rfl

/-- Which is the one it gives. -/
theorem get_of_eq_ok {α : Type} {x : Except Panic α} {a : α} (hx : x = .ok a) (h : ∃ a, x = .ok a) :
    get x h = a := by
  subst hx
  rfl

section Words

variable {w : ℕ} {y z : ℤ}

/-- A number that fits is kept. -/
theorem checked_of (h : Signed w z) : checked w z = some z := if_pos h

/-- And it is that number. -/
theorem checked_eq_some (h : checked w y = some z) : z = y := by
  unfold checked at h
  split_ifs at h
  exact (Option.some.inj h).symm

/-- One that does not fit is not. -/
theorem checked_of_not (h : ¬ Signed w z) : checked w z = none := if_neg h

/-- A number that fits does not panic. -/
theorem signed_of (h : Signed w z) : signed w z = .ok z := if_pos h

/-- A natural number that fits is that number. -/
theorem checkedUnsigned_eq_some {n : ℕ} (h : checkedUnsigned w z = some n) : z = n := by
  unfold checkedUnsigned at h
  split_ifs at h with hz
  rw [← Option.some.inj h, Int.toNat_of_nonneg hz.1]

/-- And it is kept. -/
theorem checkedUnsigned_natCast {n : ℕ} (h : n < 2 ^ w) : checkedUnsigned w n = some n := by
  have hlt : (n : ℤ) < 2 ^ w := by exact_mod_cast h
  rw [checkedUnsigned, if_pos ⟨Int.natCast_nonneg n, hlt⟩, Int.toNat_natCast]

/-- It does not panic. -/
theorem unsigned_natCast {n : ℕ} (h : n < 2 ^ w) : unsigned w n = .ok n := by
  have hlt : (n : ℤ) < 2 ^ w := by exact_mod_cast h
  rw [unsigned, if_pos ⟨Int.natCast_nonneg n, hlt⟩, Int.toNat_natCast]

/-- Nor does a difference that is not negative. -/
theorem unsigned_sub {m n : ℕ} (hle : n ≤ m) (h : m < 2 ^ w) :
    unsigned w ((m : ℤ) - n) = .ok (m - n) := by
  rw [← Int.ofNat_sub hle]
  exact unsigned_natCast (lt_of_le_of_lt (Nat.sub_le m n) h)

/-- A number below the bound in size fits. -/
theorem signed_of_natAbs_lt (h : z.natAbs < 2 ^ (w - 1)) : Signed w z := by
  have hle : |z| < 2 ^ (w - 1) := by
    rw [← Int.natCast_natAbs]
    exact_mod_cast h
  exact ⟨(abs_lt.mp hle).1.le, (abs_lt.mp hle).2⟩

/-- What a word does not hold is far from everything small. -/
theorem natAbs_le_natAbs_add_of_not_signed (h : ¬ Signed w y) :
    2 ^ (w - 1) ≤ (y + z).natAbs + z.natAbs := by
  have hy : 2 ^ (w - 1) ≤ y.natAbs := by
    by_contra hlt
    exact h (signed_of_natAbs_lt (not_le.mp hlt))
  omega

end Words

end Machine
