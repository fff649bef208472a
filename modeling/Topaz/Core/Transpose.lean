import Topaz.Core.Inverse

/-!
# Topaz.Core.Transpose

`Matrix::transpose`: a loop over all elements that exchanges each one off the diagonal
with its mirror image.

The loop meets every pair of mirror images twice, once from either side, and the second
exchange undoes the first.  What it returns is the matrix it was called on.
-/

namespace Topaz
namespace Core
namespace Matrix

variable {T : Type*} {n : Nat}

/-- `std::swap(m(i, j), m(j, i))`. -/
def swap (m : Matrix T n n) (i j : Fin n) : Matrix T n n :=
  let element := m i j
  (m.set i j (m j i)).set j i element

/-- `transpose()`. -/
def transpose (m : Matrix T n n) : Matrix T n n :=
  forCells n n (fun m i j => if i ≠ j then m.swap i j else m) m

theorem swap_apply (m : Matrix T n n) (i j a b : Fin n) : m.swap i j a b =
    if a = j ∧ b = i then m i j else if a = i ∧ b = j then m j i else m a b := by
  simp [swap]

/-- The loop leaves every element where it was. -/
theorem transpose_eq_self (m : Matrix T n n) : m.transpose = m := by
  -- while only one of two mirror images has been visited, they are exchanged
  have hinv : ∀ a b, m.transpose a b =
      if (a.val < n ∨ a.val = n ∧ b.val < 0) ↔ (b.val < n ∨ b.val = n ∧ a.val < 0)
      then m a b else m b a := by
    apply forCells_invariant fun i j (s : Matrix T n n) => ∀ a b, s a b =
      if (a.val < i ∨ a.val = i ∧ b.val < j) ↔ (b.val < i ∨ b.val = i ∧ a.val < j)
      then m a b else m b a
    · simp
    · intro i j s hs a b
      by_cases hij : i = j
      · subst hij
        simp only [ne_eq, not_true_eq_false, if_false]
        grind
      · rw [if_pos hij, swap_apply]
        grind
    · grind
  ext a b
  simp [hinv]

/-! ## what it is for -/

/-- The matrix flipped over its diagonal. -/
def flipped (m : Matrix T n n) : Matrix T n n := ⟨fun column row => m column row⟩

@[simp] theorem flipped_apply (m : Matrix T n n) (i j : Fin n) : m.flipped i j = m j i := rfl

theorem flipped_mul {K : Type*} [CommRing K] (a b : Matrix K n n) :
    (a * b).flipped = b.flipped * a.flipped := by
  ext i j
  simp [mul_apply, mul_comm]

/-- An orthogonal matrix has its flipped one as inverse. -/
theorem inverse_of_orthogonal {F : Type*} [Field F] [DecidableEq F] {q : Matrix F 4 4}
    (hq : ∀ i j, ∑ k, q i k * q j k = if i = j then 1 else 0) : q.inverse = some q.flipped := by
  apply inverse_eq_some_of_mul
  ext i j
  simp [mul_apply, identity_apply_square, hq]

/-- **Transpose**: it transposes exactly the symmetric matrices; twice it gives the matrix
again; it takes a product to the product in the other order exactly if the factors commute,
and an orthogonal matrix to its inverse exactly if that is symmetric. -/
theorem transpose_transposes_iff {K F : Type*} [CommRing K] [Field F] [DecidableEq F]
    (m : Matrix T n n) (a b : Matrix K n n) (q : Matrix F 4 4) :
    ((∀ i j, m.transpose i j = m j i) ↔ ∀ i j, m i j = m j i) ∧
      m.transpose.transpose = m ∧
      ((a * b).transpose = b.transpose * a.transpose ↔ a * b = b * a) ∧
      ((∀ i j, ∑ k, q i k * q j k = if i = j then 1 else 0) →
        (q.inverse = some q.transpose ↔ ∀ i j, q i j = q j i)) := by
  simp only [transpose_eq_self, true_and]
  intro hq
  rw [inverse_of_orthogonal hq, Option.some_inj, Matrix.ext_iff]
  simp only [flipped_apply]
  exact forall_comm

/-- A matrix that is not symmetric is returned as it is, and so is a quarter turn, whose
inverse is the turn back. -/
theorem transpose_unchanged :
    let m : Matrix ℤ 2 2 := ⟨fun j i => 2 * i.val + j.val⟩
    let turn : Matrix ℤ 2 2 := ⟨fun j i => if i = j then 0 else if i < j then -1 else 1⟩
    m.transpose 0 1 = 1 ∧ m 1 0 = 2 ∧
      turn.transpose * turn ≠ identity ∧ turn.flipped * turn = identity := by
  decide

end Matrix
end Core
end Topaz
