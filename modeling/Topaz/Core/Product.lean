import Topaz.Core.Matrix
import Mathlib.Algebra.BigOperators.Ring.Finset
import Mathlib.Data.Matrix.Mul
import Mathlib.Order.Interval.Finset.Fin

/-!
# Topaz.Core.Product

The product of square matrices.

`operator*=` copies the left operand and then overwrites it, element by element, while it
reads the copy and the right operand.  The right operand is a reference, so the matrices
stand at addresses here: with one object on both sides the rows that have been written
are read as the right operand of the rows after them.  `operator*` multiplies a copy and
never meets this.

* `mulAssign_of_ne` — two objects: the product, and no other object changes;
* `mulAssign_self` — one object: what every row reads.
-/

namespace Topaz

/-- The matrix as a mathematical one. -/
def asMatrix {T : Type*} {n : Nat} (m : Core.Matrix T n n) : Matrix (Fin n) (Fin n) T :=
  Matrix.of m.get

@[simp] theorem asMatrix_apply {T : Type*} {n : Nat} (m : Core.Matrix T n n) (i j : Fin n) :
    asMatrix m i j = m i j := rfl

theorem asMatrix_injective {T : Type*} {n : Nat} :
    Function.Injective (asMatrix : Core.Matrix T n n → Matrix (Fin n) (Fin n) T) := by
  intro m m' h
  ext i j
  exact congrFun (congrFun h i) j

theorem asMatrix_inj {T : Type*} {n : Nat} {m m' : Core.Matrix T n n} :
    asMatrix m = asMatrix m' ↔ m = m' := asMatrix_injective.eq_iff

@[simp] theorem asMatrix_identity {T : Type*} [Zero T] [One T] {n : Nat} :
    asMatrix (Core.Matrix.identity : Core.Matrix T n n) = 1 := by
  ext i j
  simp [Core.Matrix.identity_apply_square, Matrix.one_apply]

namespace Core
namespace Matrix

variable {T : Type*} {n : Nat}

/-! ## the loops -/

/-- The innermost loop of `operator*=`. -/
def element [Zero T] [Add T] [Mul T] (m matrix : Matrix T n n) (i j : Fin n) : T :=
  forLoop n (fun resEle k => resEle + m i k * matrix k j) 0

/-- `operator*=(matrix)` of the object at `this`; the right operand is the object at
`matrix`. -/
def mulAssign [Zero T] [Add T] [Mul T] (objects : Nat → Matrix T n n) (this matrix : Nat) :
    Nat → Matrix T n n :=
  let m := objects this
  forCells n n (fun objects i j =>
    Function.update objects this ((objects this).set i j (element m (objects matrix) i j)))
    objects

/-- `operator*(matrix)`: `operator*=` of a copy. -/
def mul [Zero T] [Add T] [Mul T] (m matrix : Matrix T n n) : Matrix T n n :=
  let objects : Nat → Matrix T n n := fun address => if address = 0 then m else matrix
  mulAssign objects 0 1 0

instance [Zero T] [Add T] [Mul T] : Mul (Matrix T n n) := ⟨mul⟩

section

variable [NonUnitalNonAssocSemiring T] (objects : Nat → Matrix T n n) {this matrix : Nat}

theorem element_eq (m m' : Matrix T n n) (i j : Fin n) :
    element m m' i j = ∑ k, m i k * m' k j := forLoop_add _

/-- Only the left operand is written. -/
theorem mulAssign_other {other : Nat} (hother : other ≠ this) :
    mulAssign objects this matrix other = objects other := by
  apply forCells_invariant fun _ _ (s : Nat → Matrix T n n) => s other = objects other
  · rfl
  · intro i j s hs
    simp [hother, hs]
  · exact fun _ _ hs => hs

/-- With two objects the left one ends as the product. -/
theorem mulAssign_of_ne (h : matrix ≠ this) (a b : Fin n) :
    mulAssign objects this matrix this a b = ∑ k, objects this a k * objects matrix k b := by
  have hinv : mulAssign objects this matrix matrix = objects matrix ∧
      ∀ a b, a.val < n ∨ a.val = n ∧ b.val < 0 →
        mulAssign objects this matrix this a b = element (objects this) (objects matrix) a b := by
    apply forCells_invariant fun i j (s : Nat → Matrix T n n) => s matrix = objects matrix ∧
      ∀ a b, a.val < i ∨ a.val = i ∧ b.val < j →
        s this a b = element (objects this) (objects matrix) a b
    · simp
    · intro i j s hs
      simp only [Function.update_self, Function.update_of_ne h, hs.1, set_apply]
      grind
    · grind
  rw [hinv.2 a b (by omega), element_eq]

/-- With one object the rows above are read as they have been written, the others as they
were. -/
theorem mulAssign_self (a b : Fin n) : mulAssign objects this this this a b =
    ∑ k, objects this a k *
      if k < a then mulAssign objects this this this k b else objects this k b := by
  have hinv : ∀ a b, mulAssign objects this this this a b =
      if a.val < n ∨ a.val = n ∧ b.val < 0 then
        ∑ k, objects this a k *
          if k < a then mulAssign objects this this this k b else objects this k b
      else objects this a b := by
    apply forCells_invariant fun i j (s : Nat → Matrix T n n) => ∀ a b, s this a b =
      if a.val < i ∨ a.val = i ∧ b.val < j then
        ∑ k, objects this a k * if k < a then s this k b else objects this k b
      else objects this a b
    · simp
    · intro i j s hs a b
      simp only [Function.update_self, set_apply]
      by_cases hnow : a = i ∧ b = j
      · obtain ⟨rfl, rfl⟩ := hnow
        rw [if_pos ⟨rfl, rfl⟩, if_pos (by omega), element_eq]
        apply Finset.sum_congr rfl
        intro k _
        have hk := hs k b
        grind
      · rw [if_neg hnow, hs a b]
        by_cases hdone : a.val < i ∨ a.val = i ∧ b.val < j
        · -- the rows above `a` were finished before this element was written
          rw [if_pos hdone, if_pos (by omega)]
          apply Finset.sum_congr rfl
          grind
        · rw [if_neg hdone, if_neg (by grind)]
    · grind
  rw [hinv, if_pos (by omega)]

theorem mul_apply (m m' : Matrix T n n) (i j : Fin n) :
    (m * m') i j = ∑ k, m i k * m' k j := by
  have h := mulAssign_of_ne (fun address => if address = 0 then m else m') one_ne_zero i j
  simp only [if_neg one_ne_zero, if_true] at h
  exact h

end

end Matrix
end Core

@[simp] theorem asMatrix_mul {T : Type*} [NonUnitalNonAssocSemiring T] {n : Nat}
    (m m' : Core.Matrix T n n) : asMatrix (m * m') = asMatrix m * asMatrix m' := by
  ext i j
  simp [Core.Matrix.mul_apply, Matrix.mul_apply]

namespace Core
namespace Matrix

variable {K : Type*} {n : Nat}

/-! ## the product -/

section

variable [Semiring K]

protected theorem mul_assoc (a b c : Matrix K n n) : a * b * c = a * (b * c) := by
  rw [← asMatrix_inj]
  simp [mul_assoc]

theorem identity_mul (a : Matrix K n n) : identity * a = a := by
  rw [← asMatrix_inj]
  simp

theorem mul_identity (a : Matrix K n n) : a * identity = a := by
  rw [← asMatrix_inj]
  simp

end

/-- A sum whose terms below `a` have been replaced. -/
theorem sum_replaced [Ring K] (a : Fin n) (f x y : Fin n → K) :
    ∑ k, f k * (if k < a then x k else y k) =
      ∑ k, f k * y k + ∑ k ∈ Finset.Iio a, f k * (x k - y k) := by
  have hIio : Finset.Iio a = Finset.univ.filter (· < a) := by
    ext k
    simp
  rw [hIio, Finset.sum_filter, ← Finset.sum_add_distrib]
  apply Finset.sum_congr rfl
  intro k _
  split
  · rw [mul_sub, add_sub_cancel]
  · rw [add_zero]

/-- `A *= A` is the square exactly if the rows that it reads too late make no difference. -/
theorem mulAssign_self_iff [Ring K] (objects : Nat → Matrix K n n) (this : Nat) :
    (∀ i j, mulAssign objects this this this i j = ∑ k, objects this i k * objects this k j) ↔
      ∀ i j, ∑ k ∈ Finset.Iio i, objects this i k *
        (∑ l, objects this k l * objects this l j - objects this k j) = 0 := by
  constructor
  · intro h i j
    have hij := h i j
    rw [mulAssign_self, sum_replaced] at hij
    simpa [h] using hij
  · intro h i
    -- the rows above are the ones that a row reads as they have been written
    induction i using WellFoundedLT.induction with
    | ind i ih =>
        intro j
        have habove : ∑ k ∈ Finset.Iio i, objects this i k *
            (mulAssign objects this this this k j - objects this k j) = 0 := by
          rw [← h i j]
          apply Finset.sum_congr rfl
          intro k hk
          rw [ih k (Finset.mem_Iio.mp hk) j]
        rw [mulAssign_self, sum_replaced, habove, add_zero]

/-- **In-place product**: two objects are always multiplied, one with itself exactly under
the condition on the rows above; the product of copies is always the product. -/
theorem mul_assign_correct_iff [CommRing K] :
    (∀ (objects : Nat → Matrix K n n) (this matrix : Nat),
      (∀ i j, mulAssign objects this matrix this i j =
          ∑ k, objects this i k * objects matrix k j) ↔
        (this = matrix → ∀ i j, ∑ k ∈ Finset.Iio i, objects this i k *
          (∑ l, objects this k l * objects this l j - objects this k j) = 0)) ∧
      (∀ (a b : Matrix K n n) (i j : Fin n), (a * b) i j = ∑ k, a i k * b k j) ∧
      (∀ a b c : Matrix K n n, a * b * c = a * (b * c)) ∧
      ∀ a : Matrix K n n, identity * a = a ∧ a * identity = a := by
  refine ⟨?_, mul_apply, Matrix.mul_assoc, fun a => ⟨identity_mul a, mul_identity a⟩⟩
  intro objects this matrix
  by_cases h : this = matrix
  · subst h
    rw [mulAssign_self_iff]
    simp
  · simp [h, mulAssign_of_ne objects (Ne.symm h)]

/-- The exchange of two rows, multiplied by itself in place: the second row reads the first
one as it has become. -/
theorem mul_assign_aliased :
    let exchange : Matrix ℤ 2 2 := ⟨fun j i => if i = j then 0 else 1⟩
    mulAssign (fun _ => exchange) 0 0 0 1 0 = 1 ∧ ∑ k, exchange 1 k * exchange k 0 = 0 := by
  decide

end Matrix
end Core
end Topaz
