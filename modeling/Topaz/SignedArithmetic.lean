import Mathlib.Algebra.Order.Ring.Int
import Mathlib.Tactic.Positivity

/-!
# Topaz.SignedArithmetic

Signed integer arithmetic in a fixed number of bits, where overflow is undefined.
-/

namespace Topaz

/-- A result of signed arithmetic in `p` bits; `none` if it overflows. -/
def checked (p : Nat) (x : Int) : Option Int :=
  if -2 ^ (p - 1) ≤ x ∧ x < 2 ^ (p - 1) then some x else none

/-- A natural number fits if it is below half of the range. -/
theorem checked_natCast (p n : Nat) :
    checked p n = if n < 2 ^ (p - 1) then some (n : Int) else none := by
  have hlow : (-2 ^ (p - 1) : Int) ≤ n := by
    have hpos : (0 : Int) < 2 ^ (p - 1) := by positivity
    omega
  have hhigh : (n : Int) < 2 ^ (p - 1) ↔ n < 2 ^ (p - 1) := by exact_mod_cast Iff.rfl
  simp [checked, hlow, hhigh]

theorem checked_zero (p : Nat) : checked p 0 = some 0 := by
  have h := checked_natCast p 0
  rwa [if_pos (Nat.two_pow_pos _)] at h

/-- A result that fits is the exact one. -/
theorem eq_of_checked_eq_some {p : Nat} {x y : Int} (h : checked p x = some y) : x = y := by
  unfold checked at h
  split at h
  · exact Option.some.inj h
  · exact absurd h (by simp)

end Topaz
